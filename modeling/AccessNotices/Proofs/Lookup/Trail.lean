import AccessNotices.Proofs.Caller.Schema
import AccessNotices.Proofs.Lookup.Envelope
/-!
What the log of a lookup tells.

Each way in which a lookup ends has a log of its own. From the log alone one can tell how it ended:
a success is reported once, a failure twice in a row, and nothing is reported of a lookup that gives
no envelope. Main statement: `trail_of_lookup`.
-/

namespace AccessNotices.Lookup

/-! ### Severities -/

namespace Ending

variable {conduct : Conduct} {caller : Caller} {q : Query} {log : List LogEntry}
  {result : Except LookupError Envelope}

/-- A success is reported, and nothing else is at its severity. -/
theorem success_iff (ends : Ending conduct caller q log result) :
    (∃ records, result = .ok (.success records)) ↔ ∃ e ∈ log, e.severity = .info := by
  cases ends <;> simp [storeFailureEntry, failureEntry, fetchedEntry, nothingEntry, successEntry]

/-- A failure is reported, and nothing else is at its severity. -/
theorem failure_iff (ends : Ending conduct caller q log result) :
    (∃ failure, result = .ok (.failure failure)) ↔ ∃ e ∈ log, e.severity = .error := by
  cases ends <;> simp [storeFailureEntry, failureEntry, fetchedEntry, nothingEntry, successEntry]

/-- Where an error is logged, the last two entries are the errors. -/
theorem errors_of_mem (ends : Ending conduct caller q log result) {e : LogEntry} (mem : e ∈ log)
    (error : e.severity = .error) :
    ∃ before first second, log = before ++ [first, second] ∧ first.severity = .error ∧
      second.severity = .error ∧ ∀ e ∈ before, e.severity = .debug := by
  have failure := ends.failure_iff.mpr ⟨e, mem, error⟩
  cases ends with
  | caught => exact ⟨[], _, _, rfl, rfl, rfl, nofun⟩
  | nothing =>
    refine ⟨[fetchedEntry q []], _, _, rfl, rfl, rfl, fun e mem => ?_⟩
    rw [List.mem_singleton.mp mem]
    rfl
  | escaped | records | unwritable =>
    obtain ⟨failure, given⟩ := failure
    cases given

end Ending

/-! ### Logs -/

/-- How a log names what stands for a role: a role by its text, and a text by itself, with
replacements for halves of characters. -/
inductive NamesRole : Value → String → Prop where
  | role (r : Role) : NamesRole (.role r) r.text
  | text (s : String) : NamesRole (.text s) s
  | halved (t : Text.HalvedText) : NamesRole (.codes t) t.shown

theorem roleText_of_names {v : Value} {name : String} (names : NamesRole v name) :
    roleText v = name := by
  cases names <;> rfl

/-- The role of a caller that is accepted has a name. -/
theorem exists_names_of_accepted {entries : List (Value × Value)} {caller : Caller}
    (accepted : Caller.ofEntries entries = .ok caller) : ∃ name, NamesRole caller.role name := by
  obtain ⟨v, -, read⟩ :=
    Caller.roleField_eq_ok_iff.mp (Caller.ofEntries_eq_ok_iff.mp accepted).2.role_eq
  have kept := Caller.roleOf_eq_ok_iff.mp read
  generalize caller.role = role at kept
  cases kept with
  | role | named | encoded => exact ⟨_, .role _⟩
  | unnamed | foreign => exact ⟨_, .text _⟩
  | halved => exact ⟨_, .halved _⟩

/-- A text with another first character is not worded as an error response. -/
theorem ne_errorResponse {s : String} (other : s.toList.head? ≠ some 'E') (cause : String) :
    s ≠ "Error response : " ++ cause := by
  rintro rfl
  rw [String.toList_append] at other
  exact other rfl

/-- Nothing that is logged about a lookup without rows is worded as an error response. -/
theorem ne_errorResponse_of_nothing {caller : Caller} {q : Query} {e : LogEntry}
    (mem : e ∈ [dispatchEntry caller, fetchedEntry q [], nothingEntry caller.resourceServerUrl,
      failureEntry]) (cause : String) : e.message ≠ "Error response : " ++ cause := by
  apply ne_errorResponse
  simp only [List.mem_cons, List.not_mem_nil, or_false] at mem
  rcases mem with rfl | rfl | rfl | rfl
  · simp [dispatchEntry, dispatchMessage]
  · simp [fetchedEntry]
  · simp [nothingEntry]
  · simp [failureEntry]

/-- **The trail of a lookup.** Whatever the store does, a lookup logs first which statement it runs,
for which role and which side, and then:

* of rows that are assembled, how many they are, and one success;
* of no rows, that they are none, and that there is no request and a failure, but no error response
  of the store;
* of a fault that is caught, its message and a failure, but no number of rows;
* of a fault that escapes, nothing;
* of rows that cannot be assembled, how many they are.

So a success is logged exactly if there is a success envelope, and errors exactly if there is a
failure envelope, and then they are two, one after the other at the end. -/
theorem trail_of_lookup (engine : Engine) (caller : Caller) (statements : Statements) :
    let conduct := engine (queryFor caller statements)
    let perspective := Perspective.classify caller.role
    let url := caller.resourceServerUrl
    let built := build engine caller statements
    let fetched (n : Nat) : LogEntry := ⟨.debug, .session,
      "Fetched " ++ Number.natString n ++ " notification rows for " ++ url⟩
    let failure : LogEntry :=
      ⟨.error, .notices, "Failure while executing GET notifications request"⟩
    ∃ role, (∀ name, NamesRole caller.role name → role = name) ∧
      (∀ entries, Caller.ofEntries entries = .ok caller → NamesRole caller.role role) ∧
      let dispatch : LogEntry := ⟨.debug, .notices, "Fetching " ++ perspective.selector.text ++
        " for role=" ++ role ++ " perspective=" ++ perspective.text⟩
      (∀ rows records, conduct.Reads rows → rows ≠ [] → recordsFor caller rows = .ok records →
        built.log = [dispatch, fetched rows.length,
          ⟨.info, .notices, "success while executing GET notifications request"⟩]) ∧
      (conduct.Reads [] →
        built.log = [dispatch, fetched 0,
          ⟨.error, .notices, "No Request found for the resource server: " ++ url⟩, failure] ∧
        ∀ e ∈ built.log, ∀ cause, e.message ≠ "Error response : " ++ cause) ∧
      (∀ f message, conduct.Raises f → f.IsCaught message →
        built.log = [dispatch, ⟨.error, .session, "Error response : " ++ message⟩, failure]) ∧
      (∀ f e, conduct.Raises f → f.Escapes e → built.log = [dispatch]) ∧
      (∀ rows e, conduct.Reads rows → rows ≠ [] → recordsFor caller rows = .error e →
        built.log = [dispatch, fetched rows.length]) ∧
      ((∃ records, built.result = .ok (.success records)) ↔
        ∃ e ∈ built.log, e.severity = .info) ∧
      ((∃ failure, built.result = .ok (.failure failure)) ↔
        ∃ e ∈ built.log, e.severity = .error) ∧
      ∀ e ∈ built.log, e.severity = .error → ∃ before first second,
        built.log = before ++ [first, second] ∧ first.severity = .error ∧
        second.severity = .error ∧ ∀ e ∈ before, e.severity = .debug := by
  intro conduct perspective url built fetched failure
  obtain ⟨log, whole, ends⟩ := exists_ending engine caller statements
  refine ⟨roleText caller.role, fun name => roleText_of_names, ?_, ?_, ?_, ?_, ?_, ?_, ?_, ?_, ?_⟩
  · intro entries accepted
    obtain ⟨name, names⟩ := exists_names_of_accepted accepted
    rwa [roleText_of_names names]
  · intro rows records reads some assembled
    exact congrArg Transcript.log (build_of_records reads some assembled)
  · intro reads
    have trail := congrArg Transcript.log (build_of_nothing reads)
    refine ⟨trail, fun e mem => ?_⟩
    rw [trail] at mem
    exact ne_errorResponse_of_nothing mem
  · intro f message raises caught
    exact congrArg Transcript.log (build_of_caught raises caught)
  · intro f e raises escapes
    exact congrArg Transcript.log (build_of_escape raises escapes)
  · intro rows e reads some failed
    exact congrArg Transcript.log (build_of_unwritable reads some failed)
  · rw [ends.success_iff, whole]
    simp [dispatchEntry]
  · rw [ends.failure_iff, whole]
    simp [dispatchEntry]
  · intro e mem error
    rw [whole] at mem ⊢
    rcases List.mem_cons.mp mem with rfl | later
    · cases error
    obtain ⟨before, first, second, rfl, firstError, secondError, quiet⟩ :=
      ends.errors_of_mem later error
    refine ⟨dispatchEntry caller :: before, first, second, rfl, firstError, secondError, ?_⟩
    exact List.forall_mem_cons.mpr ⟨rfl, quiet⟩

/-- The trails of one row and of a connection that is refused. -/
theorem trail_of_row_and_refusal :
    let asked : LogEntry :=
      ⟨.debug, .notices, "Fetching consumer_notifications for role=consumer perspective=consumer"⟩
    (build (fun _ => .entered (.complete [rowNamed (.text "Jo")]) none) consumerCaller .builtIn).log =
      [asked, ⟨.debug, .session, "Fetched 1 notification rows for rs://a"⟩,
        ⟨.info, .notices, "success while executing GET notifications request"⟩] ∧
    (build (fun _ => .unreachable ⟨.system, [.int 111, .text "refused"]⟩) consumerCaller
      .builtIn).log =
      [asked, ⟨.error, .session, "Error response : [Errno 111] refused"⟩,
        ⟨.error, .notices, "Failure while executing GET notifications request"⟩] := by
  intro asked
  constructor
  · obtain ⟨role, named, -, ofRows, -⟩ := trail_of_lookup
      (fun _ => .entered (.complete [rowNamed (.text "Jo")]) none) consumerCaller .builtIn
    cases named "consumer" (.role .consumer)
    have writable : ∀ row ∈ [rowNamed (.text "Jo")], row.IsWritable .consumer := by
      decide
    obtain ⟨records, assembled⟩ := exists_recordsFor consumerCaller writable
    exact ofRows _ records (.complete _) (List.cons_ne_nil _ _) assembled
  · obtain ⟨role, named, -, -, -, ofFailure, -⟩ := trail_of_lookup
      (fun _ => .unreachable ⟨.system, [.int 111, .text "refused"]⟩) consumerCaller .builtIn
    cases named "consumer" (.role .consumer)
    exact ofFailure _ _ (.connecting _) (Fault.isCaught_refusal _)

end AccessNotices.Lookup
