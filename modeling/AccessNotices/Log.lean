import AccessNotices.Value.Display
import AccessNotices.Text.Case
/-!
Log entries, and the logger that decides which of them are shown.

A logger has a level and handlers. Configuring it sets the level, and the first time it installs a
handler of its own; what is no level is refused before anything is changed.
-/

namespace AccessNotices

open Text

inductive Severity where
  | debug
  | info
  | error
  deriving DecidableEq, Repr

namespace Severity

def name : Severity → String
  | debug => "DEBUG"
  | info => "INFO"
  | error => "ERROR"

/-- The level from which on entries of this severity are hidden no more. -/
def rank : Severity → Int
  | debug => 10
  | info => 20
  | error => 40

end Severity

/-- The part of the program that writes a log entry. -/
inductive LogSource where
  | notices
  | session
  | pool
  | commandLine
  deriving DecidableEq, Repr

def LogSource.name : LogSource → String
  | notices => "apdacl.api.notifications_api"
  | session => "apdacl.database.notification_repo"
  | pool => "apdacl.database.pool"
  | commandLine => "apdacl.cli"

structure LogEntry where
  severity : Severity
  source : LogSource
  message : String
  deriving DecidableEq, Repr

/-- Why a logger is not configured: what is given for a level is neither a text nor an integer. -/
inductive LevelError where
  /-- It can be shown, but is of the wrong kind. -/
  | wrongKind (given : Value)
  /-- It holds an integer with too many digits, so that it cannot even be shown. -/
  | longInteger

namespace LevelError

/-- The error for a value that is no level. It is compared with its plain text first, to find out
whether it is a name. -/
def ofValue (given : Value) : LevelError :=
  if given.isWritable then .wrongKind given else .longInteger

def kind : LevelError → String
  | wrongKind _ => "TypeError"
  | longInteger => "ValueError"

def message : LevelError → String
  | wrongKind given => "Level not an integer or a valid string: " ++ given.literal
  | longInteger => Number.longIntegerText

end LevelError

structure Logger where
  level : Int
  handlers : Nat
  /-- Has the logger been given a handler of its own? -/
  installed : Bool
  deriving DecidableEq, Repr

namespace Logger

/-- Work on the logger. What was done before an error stays. -/
abbrev Work := EStateM LevelError Logger

/-- Before anything is configured. -/
def fresh : Logger := ⟨0, 0, false⟩

def namedLevels : List (String × Int) :=
  [("CRITICAL", 50), ("FATAL", 50), ("ERROR", 40), ("WARN", 30), ("WARNING", 30), ("INFO", 20),
   ("DEBUG", 10), ("NOTSET", 0)]

/-- The name of the level that is used when none is asked for. -/
def defaultName : String := "INFO"

def defaultLevel : Int := 20

/-- The level of a name in any case; the default for a name that no level has. -/
def levelNamed (name : String) : Int :=
  (namedLevels.lookup (uppered name)).getD defaultLevel

/-- The level that a name stands for; anything but a text stands for itself. -/
def resolved (given : Value) : Value :=
  match given.asText? with
  | some name => .int (levelNamed name)
  | none => given

def setLevel : Value → Work Unit
  | .int n => modify fun l => { l with level := n }
  | .bool b => modify fun l => { l with level := if b then 1 else 0 }
  | v => throw (.ofValue v)

/-- The logger is given its handler, unless it has it. -/
def install : Work Unit :=
  modify fun l =>
    if l.installed then l else { l with handlers := l.handlers + 1, installed := true }

/-- The level is set to what is given for one, or to the default, and the handler is installed. -/
def configure (given : Option Value) : Work Unit := do
  setLevel (resolved (given.getD (.text defaultName)))
  install

/-- The logger that is left when it was configured or that was refused. -/
def configured (l : Logger) (given : Option Value) : Logger :=
  match configure given l with
  | .ok _ l => l
  | .error _ l => l

/-- The level that takes effect: where none is set, warnings and above. -/
def effectiveLevel (l : Logger) : Int :=
  if l.level = 0 then 30 else l.level

def shows (l : Logger) (e : LogEntry) : Bool :=
  decide (0 < l.handlers ∧ l.effectiveLevel ≤ e.severity.rank)

end Logger

end AccessNotices
