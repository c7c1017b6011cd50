import AccessNotices.CommandLine.Run
import AccessNotices.Proofs.Lookup.Payload
/-!
How runs end.

A run goes through stages: the configuration is loaded, the caller is looked at, the store is
opened, the statements are looked at, and the lookup is made. A mistake at any stage ends the run
with a code of its own and nothing printed, and a store that was opened is closed whatever happens.
Main statements: `Run.balanced_ofInvocation` for the store, and `Run.of_notifications` for the codes
and what is printed.
-/

namespace AccessNotices.CommandLine

open Transcript

/-! ### Stores are closed -/

/-- Nothing happens to the store but sessions. -/
def OnlySessions (events : List RunEvent) : Prop :=
  ∃ sessions : List Event, events = sessions.map .session

/-- The store is never opened, or it is opened first and closed last, with nothing but sessions in
between. -/
inductive Balanced : List RunEvent → Prop where
  | unopened : Balanced []
  | closed (sessions : List Event) : Balanced (.opened :: sessions.map .session ++ [.closed])

section Database

variable {config : Value} {environment : Option String} {opening : Opening}

/-- The configuration leads to a store that can be opened, with an entry in the log. -/
inductive Opens (config : Value) (environment : Option String) (opening : Opening) :
    LogEntry → Database → Prop where
  | intro {settings : DatabaseSettings} {plan : PoolPlan} {entry : LogEntry} {database : Database}
      (settings_eq : DatabaseSettings.ofConfig config environment = .ok settings)
      (plan_eq : Pool.plan settings.toValue = .ok (plan, entry))
      (opened : opening plan = .ok database) : Opens config environment opening entry database

variable {α : Type} (body : Database → Procedure α)

/-- What comes of work on a store when it is closed again. -/
def afterwards (disposal : Option Stop) (result : Except Stop α) : Except Stop α :=
  match disposal with
  | some stop => .error stop
  | none => result

/-- A store that opens is closed again, whatever is done with it in between. -/
theorem withDatabase_of_opens {entry : LogEntry} {database : Database}
    (opens : Opens config environment opening entry database) :
    withDatabase config environment opening body =
      ⟨.opened :: (body database).events ++ [.closed], entry :: (body database).log,
        afterwards database.disposal (body database).result⟩ := by
  obtain ⟨settings_eq, plan_eq, opened⟩ := opens
  rw [withDatabase, settings_eq]
  simp only [Except.mapError, ofExcept_ok_bind, plan_eq, note_bind, opened]
  cases database.disposal <;> rfl

/-- A problem with the section of the store is a mistake. -/
theorem withDatabase_of_problem {p : ConfigProblem}
    (problem : DatabaseSettings.ofConfig config environment = .error (.problem p)) :
    withDatabase config environment opening body = fail (.misconfigured p.message p.hint?) := by
  rw [withDatabase, problem]
  rfl

/-- A store that cannot be opened is not opened, and the run stops. -/
theorem withDatabase_of_not_opens
    (closed : ∀ entry database, ¬ Opens config environment opening entry database) :
    (withDatabase config environment opening body).events = [] ∧
      ∃ stop, (withDatabase config environment opening body).result = .error stop := by
  rw [withDatabase]
  cases settings_eq : DatabaseSettings.ofConfig config environment with
  | error e => exact ⟨rfl, _, rfl⟩
  | ok settings =>
    simp only [Except.mapError, ofExcept_ok_bind]
    cases plan_eq : Pool.plan settings.toValue with
    | error e => exact ⟨rfl, _, rfl⟩
    | ok planned =>
      obtain ⟨plan, entry⟩ := planned
      simp only [ofExcept_ok_bind, note_bind]
      cases opened : opening plan with
      | error e => exact ⟨rfl, _, rfl⟩
      | ok database => exact absurd (.intro settings_eq plan_eq opened) (closed entry database)

/-- Work on a store that does nothing but sessions leaves the store closed. -/
theorem balanced_withDatabase
    (sessions : ∀ database, OnlySessions (body database).events) :
    Balanced (withDatabase config environment opening body).events := by
  by_cases opens : ∃ entry database, Opens config environment opening entry database
  · obtain ⟨entry, database, opens⟩ := opens
    obtain ⟨events, same⟩ := sessions database
    rw [withDatabase_of_opens body opens, same]
    exact .closed events
  · rw [(withDatabase_of_not_opens body fun entry database h => opens ⟨entry, database, h⟩).1]
    exact .unopened

end Database

/-! ### Stages of a run -/

section Stages

variable {config : Value} {environment : Option String} {opening : Opening} {r : Request}
  {caller : Caller} {database : Database} {entry : LogEntry} {statements : Statements}

/-- A lookup does nothing to the store but have its sessions. -/
theorem events_lookup (config : Value) (caller : Caller) (database : Database) :
    OnlySessions (lookup config caller database).events := by
  rw [lookup]
  cases Statements.ofConfig config with
  | error e => exact ⟨[], rfl⟩
  | ok statements => exact ⟨(Lookup.build database.engine caller statements).events, rfl⟩

/-- Nor does the creation of tables. -/
theorem events_createOn (database : Database) :
    OnlySessions (createOn database).events := by
  rw [createOn]
  cases database.create with
  | ok store => exact ⟨[.connect, .enter, .leave], rfl⟩
  | error f => exact ⟨[.connect], rfl⟩

/-- What is done with an envelope: its object is printed. -/
def printEnvelope (envelope : Envelope) : Procedure Result := do
  let payload ← ofExcept (envelope.toJson.mapError fun e => .broken (.lookup (.unwritable e)))
  let output ← ofExcept (printed payload)
  pure ⟨codeOf envelope, output, none⟩

theorem events_printEnvelope (envelope : Envelope) : (printEnvelope envelope).events = [] := by
  rw [printEnvelope]
  cases envelope.toJson with
  | error e => rfl
  | ok payload =>
    simp only [Except.mapError, ofExcept_ok_bind]
    cases printed payload <;> rfl

theorem notifications_of_caller (accepted : callerOf r = .ok caller) :
    notifications config environment opening r =
      withDatabase config environment opening (lookup config caller) >>= printEnvelope := by
  rw [notifications, accepted]
  rfl

/-- Without a caller the store is not opened. -/
theorem notifications_of_noCaller {stop : Stop} (rejected : callerOf r = .error stop) :
    notifications config environment opening r = fail stop := by
  rw [notifications, rejected]
  rfl

/-- Every task closes what it opens. -/
theorem balanced_perform (config : Value) (environment : Option String) (opening : Opening)
    (task : Task) : Balanced (perform config environment opening task).events := by
  cases task with
  | notifications r =>
    rw [perform]
    cases found : callerOf r with
    | error stop =>
      rw [notifications_of_noCaller found]
      exact .unopened
    | ok caller =>
      rw [notifications_of_caller found, events_bind_of_silent _ _ events_printEnvelope]
      exact balanced_withDatabase _ (events_lookup config caller)
  | createTables =>
    rw [perform, createTables, events_bind_of_silent]
    · exact balanced_withDatabase _ events_createOn
    · intro store
      rfl

theorem lookup_of_statements (given : Statements.ofConfig config = .ok statements) :
    (lookup config caller database).result =
      (Lookup.build database.engine caller statements).result.mapError
        fun e => .broken (.lookup e) := by
  rw [lookup, given]
  rfl

/-- A problem with the statements is a mistake; the store is open by then. -/
theorem lookup_of_problem {p : ConfigProblem}
    (problem : Statements.ofConfig config = .error (.problem p)) :
    lookup config caller database = fail (.misconfigured p.message p.hint?) := by
  rw [lookup, problem]
  rfl

/-- An object that can be printed is printed with a line end. -/
theorem printEnvelope_of_printable {envelope : Envelope} {payload : Json}
    (object : envelope.toJson = .ok payload) (printable : payload.isPrintable = true) :
    (printEnvelope envelope).result = .ok ⟨codeOf envelope, payload.pretty ++ "\n", none⟩ := by
  have text : printed payload = .ok (payload.pretty ++ "\n") := by
    rw [printed, if_pos printable]
  rw [printEnvelope, object]
  simp only [Except.mapError, ofExcept_ok_bind, text]
  rfl

end Stages

namespace Stop

/-- Is what stops the run a mistake of whoever calls the program? -/
def isMistake : Stop → Bool
  | misconfigured _ _ => true
  | noCaller _ => true
  | broken _ => false

end Stop

/-- A request that has no caller is a mistake of the user. -/
theorem isMistake_of_callerOf {r : Request} {stop : Stop} (rejected : callerOf r = .error stop) :
    stop.isMistake = true := by
  obtain ⟨report, -, rfl⟩ := mapError_eq_error_iff.mp rejected
  rfl

namespace Run

/-- The run ends with the code of a mistake, and prints nothing. -/
def IsMistake (run : Run) : Prop :=
  run.ending = .ok 2 ∧ run.output = ""

variable {name : CommandName} {logger : Logger} {w : Procedure Result}

@[simp] theorem events_ofProcedure (name : CommandName) (logger : Logger) (w : Procedure Result) :
    (ofProcedure name logger w).events = w.events := by
  unfold ofProcedure
  split <;> rfl

/-- A run that ends with an error prints nothing. -/
theorem output_of_error {stop : Stop} (ends : w.result = .error stop) :
    (ofProcedure name logger w).output = "" := by
  rw [ofProcedure, ends]
  cases stop <;> rfl

theorem isMistake_of_error {stop : Stop} (ends : w.result = .error stop)
    (mistake : stop.isMistake = true) : (ofProcedure name logger w).IsMistake := by
  rw [ofProcedure, ends]
  cases stop with
  | misconfigured message hint => exact ⟨rfl, rfl⟩
  | noCaller report => exact ⟨rfl, rfl⟩
  | broken e => cases mistake

/-- A run that ends well has the code and the output of its task. -/
theorem ofProcedure_of_ok (name : CommandName) (logger : Logger) {result : Result}
    (ends : w.result = .ok result) :
    (ofProcedure name logger w).ending = .ok result.code ∧
      (ofProcedure name logger w).output = result.output := by
  rw [ofProcedure, ends]
  exact ⟨rfl, rfl⟩

/-- Whatever a command line asks for, and whatever goes wrong, a store that is opened is closed,
once and after everything else. -/
theorem balanced_ofInvocation (i : Invocation) (logger : Logger)
    (load : String → Except LoadError Value) (environment : Option String) (opening : Opening) :
    Balanced (ofInvocation i logger load environment opening).events := by
  cases i with
  | help s => exact .unopened
  | mistake s message => exact .unopened
  | run c =>
    rw [ofInvocation, ofCommand]
    split
    · rw [events_ofProcedure]
      exact balanced_perform _ environment opening c.task
    · rw [events_ofProcedure]
      exact .unopened

/-! ### Runs that ask for notices -/

/-- The configuration of a command can be loaded, and there is a level for the log. -/
structure Loads (c : Command) (load : String → Except LoadError Value) (config : Value) : Prop where
  config_eq : load c.configPath = .ok config
  level : ∃ level, levelFor c config = .ok level

section Notifications

variable {c : Command} {r : Request} {load : String → Except LoadError Value} {config : Value}
  {environment : Option String} {opening : Opening} {caller : Caller} {entry : LogEntry}
  {database : Database} {statements : Statements}

/-- With a configuration that loads, a run is the run of its task. -/
theorem ofInvocation_of_loads (loads : Loads c load config) (logger : Logger)
    (environment : Option String) (opening : Opening) :
    ∃ logger', ofInvocation (.run c) logger load environment opening =
      ofProcedure c.task.name logger' (perform config environment opening c.task) := by
  obtain ⟨config_eq, level, resolved⟩ := loads
  have prepared : prepare c logger (load c.configPath) =
      .ok (config, logger.configured (some level)) := by
    rw [prepare, config_eq]
    change (levelFor c config >>= _) = _
    rw [resolved]
    rfl
  refine ⟨logger.configured (some level), ?_⟩
  rw [ofInvocation, ofCommand, prepared]

/-- A file that is missing, or that holds no mapping, is a mistake. -/
theorem isMistake_of_load {e : LoadError} (failed : load c.configPath = .error e)
    (mistake : (Stop.ofLoad e).isMistake = true) (logger : Logger) (environment : Option String)
    (opening : Opening) :
    (ofInvocation (.run c) logger load environment opening).IsMistake ∧
      (ofInvocation (.run c) logger load environment opening).events = [] := by
  have prepared : prepare c logger (load c.configPath) = .error (.ofLoad e) := by
    rw [prepare, failed]
    rfl
  rw [ofInvocation, ofCommand, prepared]
  exact ⟨isMistake_of_error rfl mistake, events_ofProcedure _ _ _⟩

/-- A command whose configuration or level is missing stops before anything is done. -/
theorem ofInvocation_of_not_loads (missing : ∀ config, ¬ Loads c load config) (logger : Logger)
    (environment : Option String) (opening : Opening) :
    (ofInvocation (.run c) logger load environment opening).events = [] := by
  have stopped : ∃ stop, prepare c logger (load c.configPath) = .error stop := by
    cases config_eq : load c.configPath with
    | error e => exact ⟨_, rfl⟩
    | ok config =>
      cases resolved : levelFor c config with
      | ok level => exact absurd ⟨config_eq, level, resolved⟩ (missing config)
      | error stop =>
        refine ⟨stop, ?_⟩
        rw [prepare]
        change (levelFor c config >>= _) = _
        rw [resolved]
        rfl
  obtain ⟨stop, stopped⟩ := stopped
  rw [ofInvocation, ofCommand, stopped]
  exact events_ofProcedure _ _ _

/-- A store is opened exactly when the run comes that far. -/
theorem opened_mem_events_iff (task : c.task = .notifications r) (logger : Logger)
    (environment : Option String) (opening : Opening) :
    .opened ∈ (ofInvocation (.run c) logger load environment opening).events ↔
      ∃ config caller entry database, Loads c load config ∧ callerOf r = .ok caller ∧
        Opens config environment opening entry database := by
  by_cases loads : ∃ config, Loads c load config
  · obtain ⟨config, loads⟩ := loads
    -- The file holds one configuration, so every condition is about this one.
    have same : ∀ config', Loads c load config' → config' = config := fun config' loads' =>
      Except.ok.inj (loads'.config_eq.symm.trans loads.config_eq)
    obtain ⟨logger', run⟩ := ofInvocation_of_loads loads logger environment opening
    rw [run, events_ofProcedure, task, perform]
    constructor
    · intro mem
      cases found : callerOf r with
      | error stop =>
        rw [notifications_of_noCaller found] at mem
        cases mem
      | ok caller =>
        rw [notifications_of_caller found, events_bind_of_silent _ _ events_printEnvelope] at mem
        by_contra closed
        have never := (withDatabase_of_not_opens (lookup config caller) fun entry database opens =>
          closed ⟨config, caller, entry, database, loads, rfl, opens⟩).1
        rw [never] at mem
        cases mem
    · rintro ⟨config', caller, entry, database, loads', found, opens⟩
      cases same config' loads'
      rw [notifications_of_caller found, events_bind_of_silent _ _ events_printEnvelope,
        withDatabase_of_opens _ opens]
      exact List.mem_cons_self
  · rw [ofInvocation_of_not_loads fun config h => loads ⟨config, h⟩]
    constructor
    · nofun
    · rintro ⟨config, -, -, -, h, -⟩
      exact absurd ⟨config, h⟩ loads

/-- A problem with the section of the store is a mistake, whoever asks. -/
theorem isMistake_of_settings {p : ConfigProblem}
    (problem : DatabaseSettings.ofConfig config environment = .error (.problem p)) :
    (ofProcedure name logger (notifications config environment opening r)).IsMistake ∧
      (ofProcedure name logger (notifications config environment opening r)).events = [] := by
  cases found : callerOf r with
  | error stop =>
    rw [notifications_of_noCaller found]
    exact ⟨isMistake_of_error rfl (isMistake_of_callerOf found), events_ofProcedure _ _ _⟩
  | ok caller =>
    rw [notifications_of_caller found, withDatabase_of_problem _ problem]
    exact ⟨isMistake_of_error rfl rfl, events_ofProcedure _ _ _⟩

/-- A problem with the statements is found when the store is open, and is a mistake if it can be
closed again. -/
theorem isMistake_of_statements (accepted : callerOf r = .ok caller)
    (opens : Opens config environment opening entry database) {p : ConfigProblem}
    (problem : Statements.ofConfig config = .error (.problem p)) :
    let run := ofProcedure name logger (notifications config environment opening r)
    run.output = "" ∧ run.events = [.opened, .closed] ∧
      (database.disposal = none → run.IsMistake) := by
  have worked : withDatabase config environment opening (lookup config caller) =
      ⟨[.opened, .closed], [entry],
        afterwards database.disposal (.error (.misconfigured p.message p.hint?))⟩ := by
    rw [withDatabase_of_opens _ opens, lookup_of_problem problem]
    rfl
  intro run
  have ran : run = ofProcedure name logger
      (withDatabase config environment opening (lookup config caller) >>= printEnvelope) :=
    congrArg (ofProcedure name logger) (notifications_of_caller accepted)
  rw [ran, worked]
  -- What keeps the store from being closed takes the place of the problem.
  cases database.disposal with
  | none =>
    exact ⟨output_of_error rfl, events_ofProcedure _ _ _, fun _ => isMistake_of_error rfl rfl⟩
  | some stop => exact ⟨output_of_error rfl, events_ofProcedure _ _ _, nofun⟩

/-- A lookup whose envelope can be printed is printed, and the code tells what it is. -/
theorem of_printable (accepted : callerOf r = .ok caller)
    (opens : Opens config environment opening entry database)
    (given : Statements.ofConfig config = .ok statements) (disposed : database.disposal = none)
    {envelope : Envelope} {payload : Json}
    (built : (Lookup.build database.engine caller statements).result = .ok envelope)
    (object : envelope.toJson = .ok payload) (printable : payload.isPrintable = true) :
    let run := ofProcedure name logger (notifications config environment opening r)
    run.ending = .ok (codeOf envelope) ∧ Json.read? run.output = some payload := by
  have looked : (withDatabase config environment opening (lookup config caller)).result =
      .ok envelope := by
    rw [withDatabase_of_opens _ opens, disposed, afterwards, lookup_of_statements given, built]
    rfl
  have ends : (notifications config environment opening r).result =
      .ok ⟨codeOf envelope, payload.pretty ++ "\n", none⟩ := by
    rw [notifications_of_caller accepted, bind_of_ok looked,
      printEnvelope_of_printable object printable]
  obtain ⟨ending, output⟩ := ofProcedure_of_ok name logger ends
  refine ⟨ending, ?_⟩
  rw [output]
  exact Json.read?_pretty (Envelope.isProper_of_toJson object)

/-- **The codes of a run, and what it prints.** Of a command that asks for notices:

* a configuration that is missing or no mapping, and a problem with the section of the store, are
  mistakes, and no store is opened;
* a caller that is none is a mistake, and no store is opened;
* a problem with the statements is a mistake too, unless the store cannot be closed; it has been
  opened by then, and is closed;
* otherwise, if whatever fails is caught, the rows can be encoded and the store can be closed, the
  code tells whether the lookup's envelope is a success or a failure, and what is printed is
  read as the object of that envelope.

A store is opened exactly when the configuration, the caller and the address allow it. In every run
of any command, a store that was opened is closed once, and nothing happens to it after that. -/
theorem of_notifications (task : c.task = .notifications r) (logger : Logger)
    (load : String → Except LoadError Value) (environment : Option String) (opening : Opening) :
    let run := ofInvocation (.run c) logger load environment opening
    (∀ path, load c.configPath = .error (.missing path) ∨
        load c.configPath = .error (.notMapping path) → run.IsMistake ∧ run.events = []) ∧
    (∀ config, Loads c load config →
      (∀ p, DatabaseSettings.ofConfig config environment = .error (.problem p) →
        run.IsMistake ∧ run.events = []) ∧
      (∀ stop, callerOf r = .error stop → run.IsMistake ∧ run.events = []) ∧
      ∀ caller entry database, callerOf r = .ok caller →
        Opens config environment opening entry database →
        (∀ p, Statements.ofConfig config = .error (.problem p) →
          run.output = "" ∧ run.events = [.opened, .closed] ∧
            (database.disposal = none → run.IsMistake)) ∧
        ∀ statements, Statements.ofConfig config = .ok statements → database.disposal = none →
          let conduct := database.engine (Lookup.queryFor caller statements)
          (∀ f, conduct.Raises f → ∃ message, f.IsCaught message) →
          (∀ rows, conduct.Reads rows →
            ∀ row ∈ rows, row.IsEncodable (Perspective.classify caller.role)) →
          ∃ envelope payload,
            (Lookup.build database.engine caller statements).result = .ok envelope ∧
            (run.ending = .ok 0 ↔ ∃ records, envelope = .success records) ∧
            (run.ending = .ok 1 ↔ ∃ failure, envelope = .failure failure) ∧
            envelope.toJson = .ok payload ∧ Json.read? run.output = some payload) ∧
    (.opened ∈ run.events ↔ ∃ config caller entry database, Loads c load config ∧
      callerOf r = .ok caller ∧ Opens config environment opening entry database) ∧
    ∀ invocation : Invocation,
      Balanced (ofInvocation invocation logger load environment opening).events := by
  intro run
  refine ⟨?_, ?_, opened_mem_events_iff task logger environment opening,
    fun i => balanced_ofInvocation i logger load environment opening⟩
  · rintro path (missing | notMapping)
    · exact isMistake_of_load missing rfl logger environment opening
    · exact isMistake_of_load notMapping rfl logger environment opening
  · intro config loads
    obtain ⟨logger', same⟩ := ofInvocation_of_loads loads logger environment opening
    rw [task, perform] at same
    have ran : run = _ := same
    rw [ran]
    refine ⟨fun p problem => isMistake_of_settings problem, ?_, ?_⟩
    · intro stop rejected
      rw [notifications_of_noCaller rejected]
      exact ⟨isMistake_of_error rfl (isMistake_of_callerOf rejected), events_ofProcedure _ _ _⟩
    · intro caller entry database accepted opens
      refine ⟨fun p problem => isMistake_of_statements accepted opens problem, ?_⟩
      intro statements given disposed conduct caught encodable
      obtain ⟨envelope, payload, built, object, printable⟩ :=
        Lookup.exists_printable_payload caught encodable
      obtain ⟨ending, read⟩ := of_printable accepted opens given disposed built object printable
      refine ⟨envelope, payload, built, ?_, ?_, object, read⟩
      · rw [ending]
        cases envelope <;> simp [codeOf, exitOk, exitFailure]
      · rw [ending]
        cases envelope <;> simp [codeOf, exitOk, exitFailure]

/-- Someone asks for the notices of a consumer. -/
def consumerRequest : Request :=
  ⟨"6f1c2d4e-8a7b-4c3d-9e0f-1a2b3c4d5e6f", "consumer", "rs://a", some "Ana", none, none⟩

/-- A configuration with nothing but an address. -/
def addressOnly : Value :=
  .map [(.text "database", .map [(.text "url", .text "sqlite+aiosqlite://")])]

def namedRow : Row :=
  .ofList [("ownerFirstName", .text "Jo")]

/-- A store that gives one row for every query. -/
def oneRow : Database where
  engine := fun _ => .entered (.complete [namedRow]) none
  create := .ok .empty

theorem isEncodable_namedRow : namedRow.IsEncodable .consumer where
  short := by
    intro e mem _
    cases List.mem_singleton.mp mem
    rfl
  form := by
    intro e mem _
    cases List.mem_singleton.mp mem
    exact ⟨.string "Jo", rfl, by decide⟩

/-- A request that finds one row succeeds and prints an object; without a file it is a mistake. -/
theorem of_one_row :
    let c : Command := ⟨.notifications consumerRequest, "c.yaml", none⟩
    let found := ofInvocation (.run c) .fresh (fun _ => .ok addressOnly) none fun _ => .ok oneRow
    let missing := ofInvocation (.run c) .fresh (fun path => .error (.missing path)) none
      fun _ => .ok oneRow
    found.ending = .ok 0 ∧ (∃ payload, Json.read? found.output = some payload) ∧
      .opened ∈ found.events ∧ Balanced found.events ∧ missing.IsMistake := by
  intro c found missing
  obtain ⟨-, stages, opened, balanced⟩ := of_notifications (c := c) rfl .fresh
    (fun _ => .ok addressOnly) none fun _ => .ok oneRow
  have loads : Loads c (fun _ => .ok addressOnly) addressOnly := ⟨rfl, _, rfl⟩
  obtain ⟨caller, accepted, role⟩ : ∃ caller, callerOf consumerRequest = .ok caller ∧
      Perspective.classify caller.role = .consumer := ⟨_, rfl, rfl⟩
  obtain ⟨entry, opens⟩ : ∃ entry, Opens addressOnly none (fun _ => .ok oneRow) entry oneRow :=
    ⟨_, .intro rfl rfl rfl⟩
  have reads (q : Query) : (oneRow.engine q).Reads [namedRow] := .complete _
  have encodable : ∀ row ∈ [namedRow], row.IsEncodable (Perspective.classify caller.role) := by
    rw [role]
    exact List.forall_mem_singleton.mpr isEncodable_namedRow
  obtain ⟨envelope, payload, built, success, -, object, read⟩ :=
    ((stages addressOnly loads).2.2 caller entry oneRow accepted opens).2 .builtIn rfl rfl
      (fun f raises => by cases raises)
      (fun rows given => by
        cases given
        exact encodable)
  obtain ⟨records, assembled, -⟩ := Lookup.exists_printable_records encodable
  have whole := congrArg Transcript.result
    (Lookup.build_of_records (reads (Lookup.queryFor caller .builtIn)) (by simp) assembled)
  refine ⟨success.mpr ⟨records, ?_⟩, ⟨payload, read⟩, ?_, balanced _, ?_⟩
  · exact Except.ok.inj (built.symm.trans whole)
  · exact opened.mpr ⟨addressOnly, caller, entry, oneRow, loads, accepted, opens⟩
  · exact ((of_notifications (c := c) rfl .fresh (fun path => .error (.missing path)) none
      fun _ => .ok oneRow).1 "c.yaml" (.inl rfl)).1

end Notifications

end Run

end AccessNotices.CommandLine
