import AccessNotices.CommandLine.Command
import AccessNotices.Lookup.Basic
import AccessNotices.Pool
import AccessNotices.Store.Answer
import AccessNotices.Store.Location
/-!
Running a command: what is printed, what is logged, what becomes of the store, and how it ends.

A run has its configuration loaded already, and a way to open the store of an address. Whatever
happens once a store is open, it is closed again: `withDatabase` is the one place where a store is
opened, and it puts the closing behind everything that is done with it. What is wrong with the
configuration or with the caller is a mistake of whoever calls the program and ends with a code of
its own; anything else that is wrong breaks the run off.
-/

namespace AccessNotices.CommandLine

/-- The exit codes. -/
def exitOk : Nat := 0

def exitFailure : Nat := 1

def exitMistake : Nat := 2

inductive RunError where
  | load (e : LoadError)
  | settings (e : SettingsError)
  | pool (e : PoolError)
  | address (e : AddressError)
  | lookup (e : LookupError)
  | creation (f : Fault)

def RunError.message? : RunError → Option String
  | load e => e.message?
  | settings e => e.message?
  | pool e => e.message?
  | address e => e.message?
  | lookup e => e.message?
  | creation f => f.message?

/-- Why a run ends before it is done. -/
inductive Stop where
  /-- A mistake in the configuration, with its wording and what to do about it. -/
  | misconfigured (message : String) (hint : Option String)
  /-- The caller is none. -/
  | noCaller (r : Validation.Report)
  | broken (e : RunError)

namespace Stop

/-- A missing file and a file without a configuration are mistakes. -/
def ofLoad : LoadError → Stop
  | .missing path => misconfigured ("Config file not found: " ++ path) none
  | .notMapping path => misconfigured (ConfigProblem.notMapping path).message none
  | e => broken (.load e)

def ofSettings : SettingsError → Stop
  | .problem p => misconfigured p.message p.hint?
  | e => broken (.settings e)

end Stop

/-! ### Stores -/

/-- An open store: how it behaves in a lookup, what it is once the tables are created, and why the
run stops when it cannot be closed. -/
structure Database where
  engine : Engine
  create : Except Fault Store
  disposal : Option Stop := none

namespace Database

def ofStore (s : Store) : Database :=
  { engine := s.engine .embedded, create := .ok s.create }

/-- A store whose connections fail. -/
def failing (f : Fault) : Database :=
  { engine := fun _ => .closed f, create := .error f }

def cannotOpen : Fault :=
  Store.driverFault "sqlite3.OperationalError" "unable to open database file"

def notStore : Fault :=
  Store.driverFault "sqlite3.DatabaseError" "file is not a database"

/-- Does a file hold nothing yet? A single byte counts as nothing. -/
def isBlank (bytes : List UInt8) : Bool :=
  bytes.length ≤ 1

/-- The ending of the name of the file that a change is prepared in. -/
def journalEnding : String := "-journal"

/-- A store that is put into a new file. It can be looked at, but not changed if the name of the
file leaves no room for the ending. -/
def ofNewFile (path : String) : Database :=
  let name := (Text.pathParts path.toList).getLast?.getD []
  if Text.nameLimit < Text.byteLength (name ++ journalEnding.toList) then
    { engine := Store.empty.engine .embedded, create := .error cannotOpen }
  else ofStore .empty

end Database

/-! ### Texts -/

/-- What a report says about a part that it keeps. -/
def detailOf : Validation.Cause → String
  | .notIdentifier given =>
    ", input_value=" ++ String.ofList (Text.excerpt given.literal.toList) ++ ", input_type=str"
  | _ => ""

def stepText : Validation.Step → String
  | .field name => name
  | .index n => Number.natString n

def issueText (i : Validation.Issue) : String :=
  ".".intercalate (i.path.map stepText) ++ "\n  " ++ i.cause.message ++ " [type=" ++ i.cause.kind ++
    detailOf i.cause ++ "]\n"

def reportText (r : Validation.Report) : String :=
  let plural := if r.issues.length = 1 then "" else "s"
  Number.natString r.issues.length ++ " validation error" ++ plural ++ " for " ++ r.subject ++
    "\n" ++ String.join (r.issues.map issueText)

/-- What is said when a run stops because of a mistake. -/
def stopText : Stop → Option String
  | .misconfigured message hint =>
    let advice := match hint with
      | some hint => " (" ++ hint ++ ")"
      | none => ""
    some ("[apdacl] Configuration error: " ++ message ++ advice ++ "\n")
  | .noCaller r => some ("[apdacl] Invalid user: " ++ reportText r)
  | .broken _ => none

/-! ### Runs -/

inductive RunEvent where
  | opened
  | session (e : Event)
  | closed
  deriving DecidableEq, Repr

/-- Something on the error stream. -/
inductive Line where
  | entry (e : LogEntry)
  | text (s : String)
  deriving DecidableEq, Repr

/-- A line as it is printed; a log entry starts with the time. -/
def Line.print (time : String) : Line → String
  | entry e =>
    time ++ " [" ++ e.severity.name ++ "] " ++ e.source.name ++ ": " ++ e.message ++ "\n"
  | text s => s

def breakEntry (c : CommandName) (e : RunError) : LogEntry :=
  ⟨.error, .commandLine,
    "Error running command '" ++ c.text ++ "': " ++ e.message?.getD ""⟩

/-- What a task comes to: an exit code, what it prints, and the store if it is another now. -/
structure Result where
  code : Nat
  output : String
  store : Option Store

structure Run where
  output : String
  errors : List Line
  logger : Logger
  events : List RunEvent
  store : Option Store
  ending : Except RunError Nat

abbrev Procedure (α : Type) := Transcript RunEvent Stop α

open Transcript

abbrev Opening := PoolPlan → Except AddressError Database

/-- Work on the store of a configuration: the store is opened, worked on, and closed. A store that
cannot be closed stops the run, whatever came of the work. -/
def withDatabase {α : Type} (config : Value) (environment : Option String) (opening : Opening)
    (body : Database → Procedure α) : Procedure α := do
  let settings ← ofExcept ((DatabaseSettings.ofConfig config environment).mapError .ofSettings)
  let (plan, entry) ← ofExcept ((Pool.plan settings.toValue).mapError fun e => .broken (.pool e))
  note entry.severity entry.source entry.message
  let database ← ofExcept ((opening plan).mapError fun e => .broken (.address e))
  ((body database).between .opened .closed).coveredBy database.disposal

/-- A way to open one store, wherever an address leads that can be understood. -/
def openingOf (database : Database) : Opening := fun plan =>
  (Location.ofAddress (plan.url.asText?.getD "").toList).map fun _ => database

/-- Where the store of a configuration is, if its address can be understood. -/
def locationOf? (config : Value) (environment : Option String) : Option Location := do
  let settings ← (DatabaseSettings.ofConfig config environment).toOption
  let (plan, _) ← (Pool.plan settings.toValue).toOption
  (Location.ofAddress (plan.url.asText?.getD "").toList).toOption

def callerOf (r : Request) : Except Stop Caller :=
  (Caller.ofValue (.ofFields
    [("user_id", .text r.userId), ("first_name", Caller.textValue r.firstName),
     ("last_name", Caller.textValue r.lastName), ("email_id", Caller.textValue r.email),
     ("resource_server_url", .text r.resourceServerUrl),
     ("role", .text r.role)])).mapError .noCaller

def codeOf : Envelope → Nat
  | .success _ => exitOk
  | .failure _ => exitFailure

/-- The lookup for a caller, on an open store. The statements are looked at when the store is open
already. -/
def lookup (config : Value) (caller : Caller) (database : Database) : Procedure Envelope := do
  let statements ← ofExcept ((Statements.ofConfig config).mapError .ofSettings)
  (Lookup.build database.engine caller statements).within .session fun e => .broken (.lookup e)

/-- The text of an object as it is printed, if its integers can be. -/
def printed (payload : Json) : Except Stop String :=
  if payload.isPrintable then .ok (payload.pretty ++ "\n")
  else .error (.broken (.lookup (.unwritable .longInteger)))

def notifications (config : Value) (environment : Option String) (opening : Opening)
    (r : Request) : Procedure Result := do
  let caller ← ofExcept (callerOf r)
  let envelope ← withDatabase config environment opening (lookup config caller)
  let payload ← ofExcept (envelope.toJson.mapError fun e => .broken (.lookup (.unwritable e)))
  let output ← ofExcept (printed payload)
  pure ⟨codeOf envelope, output, none⟩

/-- The tables of an open store are created. -/
def createOn (database : Database) : Procedure Store :=
  match database.create with
  | .ok store => ⟨[.session .connect, .session .enter, .session .leave], [], .ok store⟩
  | .error f => ⟨[.session .connect], [], .error (.broken (.creation f))⟩

def createTables (config : Value) (environment : Option String) (opening : Opening) :
    Procedure Result := do
  let store ← withDatabase config environment opening createOn
  note .info .commandLine "Database tables created (if not already present)."
  pure ⟨exitOk, "", some store⟩

def perform (config : Value) (environment : Option String) (opening : Opening) :
    Task → Procedure Result
  | .notifications r => notifications config environment opening r
  | .createTables => createTables config environment opening

/-- The level of the log: of the command line if it gives one, else of the configuration. -/
def levelFor (c : Command) (config : Value) : Except Stop Value :=
  match c.logLevel with
  | some level =>
    if level.isEmpty then ((loggingLevel config).map .text).mapError .ofSettings
    else .ok (.text level)
  | none => ((loggingLevel config).map .text).mapError .ofSettings

/-- The configuration of a command, and the logger that it asks for. -/
def prepare (c : Command) (logger : Logger) (loaded : Except LoadError Value) :
    Except Stop (Value × Logger) := do
  let config ← loaded.mapError .ofLoad
  let level ← levelFor c config
  .ok (config, logger.configured (some level))

namespace Run

def printing (logger : Logger) (output : String) : Run :=
  ⟨output, [], logger, [], none, .ok exitOk⟩

/-- A run that ends with a mistake on the command line. -/
def mistaken (logger : Logger) (text : String) : Run :=
  ⟨"", [.text text], logger, [], none, .ok exitMistake⟩

def shown (logger : Logger) (log : List LogEntry) : List Line :=
  (log.filter logger.shows).map .entry

/-- The run of a command's procedure, whose log is shown as far as the logger shows it. -/
def ofProcedure (name : CommandName) (logger : Logger) (w : Procedure Result) : Run :=
  match w.result with
  | .ok r => ⟨r.output, shown logger w.log, logger, w.events, r.store, .ok r.code⟩
  | .error (.broken e) =>
    ⟨"", shown logger (w.log ++ [breakEntry name e]), logger, w.events, none, .error e⟩
  | .error stop =>
    ⟨"", shown logger w.log ++ (stopText stop).toList.map .text, logger, w.events, none,
      .ok exitMistake⟩

def ofCommand (c : Command) (logger : Logger) (loaded : Except LoadError Value)
    (environment : Option String) (opening : Opening) : Run :=
  match prepare c logger loaded with
  | .ok (config, logger) =>
    ofProcedure c.task.name logger (perform config environment opening c.task)
  | .error stop => ofProcedure c.task.name logger (fail stop)

/-- The run of a command line. The configuration is that of the path that the command names. -/
def ofInvocation (i : Invocation) (logger : Logger) (load : String → Except LoadError Value)
    (environment : Option String) (opening : Opening) : Run :=
  match i with
  | .help s => printing logger s.help
  | .mistake s message => mistaken logger (s.mistake message)
  | .run c => ofCommand c logger (load c.configPath) environment opening

end Run

end AccessNotices.CommandLine
