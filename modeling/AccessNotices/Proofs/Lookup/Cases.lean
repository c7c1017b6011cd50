import AccessNotices.Lookup.Basic
import AccessNotices.Proofs.Value.Encodable
/-!
What a lookup does, case by case.

A session ends in one of three ways: with a fault that is caught, with one that escapes, or with
rows. Each step of a lookup has one equation for each way, which gives the whole transcript: the
events, which are those of the session, the log, and the result. Everything else about lookups
follows from these equations: `build_of_caught`, `build_of_escape`, `build_of_nothing`,
`build_of_records` and `build_of_unwritable`. There are no other ways in which a lookup ends
(`Ending`).
-/

namespace AccessNotices

/-! ### Faults -/

namespace Fault

/-- The fault is a failure of the store with this message. -/
structure IsCaught (f : Fault) (message : String) : Prop where
  store : f.isStoreFailure = true
  worded : f.message? = some message

/-- The fault is passed on as this error: it is foreign to the store, or a failure of the store
whose message cannot be written. -/
inductive Escapes (f : Fault) : LookupError → Prop where
  | foreign (passedOn : f.isStoreFailure = false) : Escapes f (.foreign f)
  | unworded (store : f.isStoreFailure = true) (none : f.message? = none) :
      Escapes f (.unwritable .longInteger)

theorem ofFault_of_isCaught {f : Fault} {message : String} (caught : f.IsCaught message) :
    LookupError.ofFault f = .storeFailed message := by
  rw [LookupError.ofFault, if_pos caught.store, caught.worded]

theorem ofFault_of_escapes {f : Fault} {e : LookupError} (escapes : f.Escapes e) :
    LookupError.ofFault f = e := by
  cases escapes with
  | foreign passedOn =>
    rw [LookupError.ofFault, passedOn]
    rfl
  | unworded store none => rw [LookupError.ofFault, if_pos store, none]

/-- There is no third kind of fault. -/
theorem isCaught_or_escapes (f : Fault) : (∃ message, f.IsCaught message) ∨ ∃ e, f.Escapes e := by
  cases store : f.isStoreFailure with
  | false => exact .inr ⟨_, .foreign store⟩
  | true =>
    cases worded : f.message? with
    | none => exact .inr ⟨_, .unworded store worded⟩
    | some message => exact .inl ⟨message, store, worded⟩

/-- The wording of a fault of the system that is known by a number and its meaning. -/
theorem message?_of_number {number : Int} (short : Value.isWritableInt number = true)
    (meaning : String) : message? ⟨.system, [.int number, .text meaning]⟩ =
      some ("[Errno " ++ Number.intString number ++ "] " ++ meaning) := by
  have written : Value.written? (.int number) = some (Number.intString number) := if_pos short
  have worded : message? ⟨.system, [.int number, .text meaning]⟩ =
      numberedMessage? (.int number) (.text meaning) .null .null := rfl
  rw [worded, numberedMessage?, written]
  change some ("[Errno " ++ Number.intString number ++ "] " ++ meaning ++ "") = _
  rw [String.append_empty]

/-- A connection that is refused is worded by its number and its meaning. -/
theorem isCaught_refusal (meaning : String) :
    IsCaught ⟨.system, [.int 111, .text meaning]⟩ ("[Errno 111] " ++ meaning) where
  store := rfl
  worded := message?_of_number (Value.isWritableInt_of_lt (by decide)) meaning

end Fault

namespace Lookup

open Transcript

/-! ### Log entries -/

/-- The entry that is logged before the store is asked. -/
def dispatchEntry (caller : Caller) : LogEntry :=
  ⟨.debug, .notices, dispatchMessage caller⟩

def fetchedEntry (q : Query) (rows : List Row) : LogEntry :=
  ⟨.debug, .session, "Fetched " ++ Number.natString rows.length ++ " notification rows for " ++
    q.parameters.resourceServerUrl⟩

def storeFailureEntry (message : String) : LogEntry :=
  ⟨.error, .session, "Error response : " ++ message⟩

/-- The entry about a lookup that finds nothing. -/
def nothingEntry (url : String) : LogEntry :=
  ⟨.error, .notices, "No Request found for the resource server: " ++ url⟩

def failureEntry : LogEntry :=
  ⟨.error, .notices, "Failure while executing GET notifications request"⟩

def successEntry : LogEntry :=
  ⟨.info, .notices, "success while executing GET notifications request"⟩

/-! ### Sessions, rows and outcomes -/

section Session

variable {engine : Engine} {q : Query} {f : Fault} {message : String} {error : LookupError}
  {rows : List Row}

def sessionEvents (engine : Engine) (q : Query) : List Event :=
  ((engine q).play q).events

/-- A session logs nothing by itself. -/
theorem log_play (c : Conduct) (q : Query) : (c.play q).log = [] := by
  cases c with
  | unreachable f => rfl
  | closed f => rfl
  | entered work leaving => rw [Conduct.play_entered]

/-- A session of a lookup is the session of the store, with its fault sorted out. -/
theorem session_eq (engine : Engine) (q : Query) :
    session engine q =
      ⟨sessionEvents engine q, [], ((engine q).play q).result.mapError LookupError.ofFault⟩ := by
  rw [session, within, List.map_id, log_play]
  rfl

theorem fetch_of_raises (raises : (engine q).Raises f) :
    fetch engine q = ⟨sessionEvents engine q, [], .error (.ofFault f)⟩ := by
  have result : (session engine q).result = .error (.ofFault f) := by
    rw [session_eq, ((engine q).result_play_eq_error_iff q f).mpr raises]
    rfl
  rw [fetch, bind_of_error result, session_eq]

theorem fetch_of_reads (reads : (engine q).Reads rows) :
    fetch engine q = ⟨sessionEvents engine q, [fetchedEntry q rows], .ok rows⟩ := by
  have result : (session engine q).result = .ok rows := by
    rw [session_eq, ((engine q).result_play_eq_ok_iff q rows).mpr reads]
    rfl
  rw [fetch, bind_of_ok result, session_eq, note_bind]
  change Transcript.mk (sessionEvents engine q ++ []) [fetchedEntry q rows] (.ok rows) = _
  rw [List.append_nil]

/-- A fault that is caught is logged, and the outcome keeps its message. -/
theorem run_of_caught (raises : (engine q).Raises f) (caught : f.IsCaught message) :
    run engine q = ⟨sessionEvents engine q, [storeFailureEntry message], .ok (.failed message)⟩ := by
  rw [run, fetch_of_raises raises, Fault.ofFault_of_isCaught caught]
  rfl

/-- A fault that escapes is passed on. -/
theorem run_of_escape (raises : (engine q).Raises f) (escapes : f.Escapes error) :
    run engine q = ⟨sessionEvents engine q, [], .error error⟩ := by
  rw [run, fetch_of_raises raises, Fault.ofFault_of_escapes escapes]
  cases escapes <;> rfl

/-- What a session reads is the outcome of the query. -/
theorem run_of_reads (reads : (engine q).Reads rows) :
    run engine q = ⟨sessionEvents engine q, [fetchedEntry q rows], .ok (.rows rows)⟩ := by
  rw [run, fetch_of_reads reads]
  rfl

end Session

/-! ### Envelopes -/

section Envelope

variable {engine : Engine} {caller : Caller} {statements : Statements} {f : Fault}
  {message : String} {error : LookupError} {rows records : List Row}

/-- The records for a caller, as a result without the work that gives it. -/
def recordsFor (caller : Caller) (rows : List Row) : Except WritingError (List Row) :=
  Row.assembleAll caller.party (Perspective.classify caller.role) (.text caller.resourceServerUrl)
    rows

theorem assemble_eq (caller : Caller) (rows : List Row) :
    assemble caller rows = ⟨[], [], (recordsFor caller rows).mapError .unwritable⟩ := rfl

/-- The lookup behind its session: the envelope is decided and reported. -/
def conclude (caller : Caller) (outcome : Outcome) : Transcript Event LookupError Envelope := do
  let envelope ← Envelope.decide outcome (assemble caller) caller.resourceServerUrl
  report outcome caller envelope
  pure envelope

/-- A lookup with an outcome goes on to conclude. -/
theorem build_of_run {events : List Event} {log : List LogEntry} {outcome : Outcome}
    (ran : run engine (queryFor caller statements) = ⟨events, log, .ok outcome⟩) :
    build engine caller statements =
      ⟨events ++ (conclude caller outcome).events,
        dispatchEntry caller :: (log ++ (conclude caller outcome).log),
        (conclude caller outcome).result⟩ := by
  rw [build, note_bind, ran]
  rfl

/-- A failed outcome is concluded without looking at rows. -/
theorem conclude_failed (caller : Caller) (message : String) :
    conclude caller (.failed message) = ⟨[], [failureEntry], .ok (.failure .database)⟩ := rfl

/-- An outcome without rows is concluded by naming the resource server. -/
theorem conclude_nothing (caller : Caller) :
    conclude caller (.rows []) =
      ⟨[], [nothingEntry caller.resourceServerUrl, failureEntry],
        .ok (.failure (.notFound caller.resourceServerUrl))⟩ := rfl

/-- An outcome with rows is concluded by their records. -/
theorem conclude_records (some : rows ≠ []) (assembled : recordsFor caller rows = .ok records) :
    conclude caller (.rows rows) = ⟨[], [successEntry], .ok (.success records)⟩ := by
  cases rows with
  | nil => exact absurd rfl some
  | cons row rest =>
    have step : assemble caller (row :: rest) = ⟨[], [], .ok records⟩ := by
      rw [assemble_eq, assembled]
      rfl
    rw [conclude, Envelope.decide, step]
    · rfl
    · intro h
      cases h

/-- If a record cannot be made, nothing is concluded. -/
theorem conclude_unwritable {e : WritingError} (some : rows ≠ [])
    (failed : recordsFor caller rows = .error e) :
    conclude caller (.rows rows) = ⟨[], [], .error (.unwritable e)⟩ := by
  cases rows with
  | nil => exact absurd rfl some
  | cons row rest =>
    have step : assemble caller (row :: rest) = ⟨[], [], .error (.unwritable e)⟩ := by
      rw [assemble_eq, failed]
      rfl
    rw [conclude, Envelope.decide, step]
    · rfl
    · intro h
      cases h

/-- **A fault that is caught** gives the same envelope whatever failed, and wherever. -/
theorem build_of_caught (raises : (engine (queryFor caller statements)).Raises f)
    (caught : f.IsCaught message) :
    build engine caller statements =
      ⟨sessionEvents engine (queryFor caller statements),
        [dispatchEntry caller, storeFailureEntry message, failureEntry],
        .ok (.failure .database)⟩ := by
  rw [build_of_run (run_of_caught raises caught), conclude_failed, List.append_nil]
  rfl

/-- **A fault that escapes** ends the lookup at once. -/
theorem build_of_escape (raises : (engine (queryFor caller statements)).Raises f)
    (escapes : f.Escapes error) :
    build engine caller statements =
      ⟨sessionEvents engine (queryFor caller statements), [dispatchEntry caller],
        .error error⟩ := by
  rw [build, note_bind, run_of_escape raises escapes]
  rfl

/-- **No rows** are a failure that names the resource server. -/
theorem build_of_nothing (reads : (engine (queryFor caller statements)).Reads []) :
    build engine caller statements =
      ⟨sessionEvents engine (queryFor caller statements),
        [dispatchEntry caller, fetchedEntry (queryFor caller statements) [],
          nothingEntry caller.resourceServerUrl, failureEntry],
        .ok (.failure (.notFound caller.resourceServerUrl))⟩ := by
  rw [build_of_run (run_of_reads reads), conclude_nothing, List.append_nil]
  rfl

/-- **Rows that can be assembled** are a success with their records. -/
theorem build_of_records (reads : (engine (queryFor caller statements)).Reads rows)
    (some : rows ≠ []) (assembled : recordsFor caller rows = .ok records) :
    build engine caller statements =
      ⟨sessionEvents engine (queryFor caller statements),
        [dispatchEntry caller, fetchedEntry (queryFor caller statements) rows, successEntry],
        .ok (.success records)⟩ := by
  rw [build_of_run (run_of_reads reads), conclude_records some assembled, List.append_nil]
  rfl

/-- **Rows that cannot be assembled** end the lookup with what cannot become JSON. -/
theorem build_of_unwritable {e : WritingError}
    (reads : (engine (queryFor caller statements)).Reads rows) (some : rows ≠ [])
    (failed : recordsFor caller rows = .error e) :
    build engine caller statements =
      ⟨sessionEvents engine (queryFor caller statements),
        [dispatchEntry caller, fetchedEntry (queryFor caller statements) rows],
        .error (.unwritable e)⟩ := by
  rw [build_of_run (run_of_reads reads), conclude_unwritable some failed, List.append_nil]
  rfl

end Envelope

/-! ### Endings -/

/-- The ways in which a lookup ends, with what is logged behind its first entry and its result. -/
inductive Ending (conduct : Conduct) (caller : Caller) (q : Query) :
    List LogEntry → Except LookupError Envelope → Prop where
  | caught {f : Fault} {message : String} (raises : conduct.Raises f)
      (caught : f.IsCaught message) :
      Ending conduct caller q [storeFailureEntry message, failureEntry] (.ok (.failure .database))
  | escaped {f : Fault} {e : LookupError} (raises : conduct.Raises f) (escapes : f.Escapes e) :
      Ending conduct caller q [] (.error e)
  | nothing (reads : conduct.Reads []) :
      Ending conduct caller q
        [fetchedEntry q [], nothingEntry caller.resourceServerUrl, failureEntry]
        (.ok (.failure (.notFound caller.resourceServerUrl)))
  | records {rows records : List Row} (reads : conduct.Reads rows) (some : rows ≠ [])
      (assembled : recordsFor caller rows = .ok records) :
      Ending conduct caller q [fetchedEntry q rows, successEntry] (.ok (.success records))
  | unwritable {rows : List Row} {e : WritingError} (reads : conduct.Reads rows) (some : rows ≠ [])
      (failed : recordsFor caller rows = .error e) :
      Ending conduct caller q [fetchedEntry q rows] (.error (.unwritable e))

/-- Every lookup logs one entry first and then ends. -/
theorem exists_ending (engine : Engine) (caller : Caller) (statements : Statements) :
    ∃ log, (build engine caller statements).log = dispatchEntry caller :: log ∧
      Ending (engine (queryFor caller statements)) caller (queryFor caller statements) log
        (build engine caller statements).result := by
  rcases (engine (queryFor caller statements)).raises_or_reads with ⟨f, raises⟩ | ⟨rows, reads⟩
  · rcases f.isCaught_or_escapes with ⟨message, caught⟩ | ⟨e, escapes⟩
    · rw [build_of_caught raises caught]
      exact ⟨_, rfl, .caught raises caught⟩
    · rw [build_of_escape raises escapes]
      exact ⟨_, rfl, .escaped raises escapes⟩
  · by_cases none : rows = []
    · subst none
      rw [build_of_nothing reads]
      exact ⟨_, rfl, .nothing reads⟩
    cases assembled : recordsFor caller rows with
    | ok records =>
      rw [build_of_records reads none assembled]
      exact ⟨_, rfl, .records reads none assembled⟩
    | error e =>
      rw [build_of_unwritable reads none assembled]
      exact ⟨_, rfl, .unwritable reads none assembled⟩

end Lookup

end AccessNotices
