import AccessNotices.CommandLine.Run
import AccessNotices.Json.Reader
import Std.Time.Zoned
/-!
The program: reads the configuration and the store, runs a command, prints what it says, and keeps
the store in its file.
-/

namespace AccessNotices.CommandLine

/-- The variable of the environment that may give the address of the store. -/
def addressVariable : String := "APDACL_DATABASE_URL"

/-- Is the path too long, or a name in it that is asked for? -/
def isOverlong (path : String) : IO Bool := do
  if Text.pathLimit < Text.byteLength path.toList then return true
  else
    match Text.overlongIn? path.toList with
    | some directory => ((← IO.currentDir) / String.ofList directory).isDir
    | none => return false

def fileState (path : String) : IO FileState := do
  if ← isOverlong path then return .overlong
  let place := (← IO.currentDir) / path
  if ← place.isDir then return .directory
  else if ← place.pathExists then return .file (← IO.FS.readBinFile place).toList
  else return .missing

def hasDirectory (path : String) : IO Bool := do
  let directory := ((Text.directoryOf? path.toList).map String.ofList).getD "."
  ((← IO.currentDir) / directory).isDir

/-- The store in a file; a file that is not there yet, and can be, is an empty store. -/
def readDatabase : Location → IO Database
  | .memory => return .ofStore .empty
  | .file path => do
    match ← fileState path with
    | .directory | .overlong => return .failing Database.cannotOpen
    | .missing =>
      return if ← hasDirectory path then .ofNewFile path else .failing Database.cannotOpen
    | .file bytes =>
      if Database.isBlank bytes then return .ofStore .empty
      match (Text.Utf8.decode? bytes).bind Json.readChars? with
      | some snapshot => return .ofStore (.ofJson snapshot)
      | none => return .failing Database.notStore

/-- The store is kept in its file. -/
def writeStore (location : Location) (store : Store) : IO Unit :=
  match location with
  | .memory => pure ()
  | .file path => IO.FS.writeFile path store.toJson.compact

/-- The time of a log entry: date and time of day, with milliseconds. -/
def timeText : IO String := do
  let now ← Std.Time.PlainDateTime.now
  let digits (width : Nat) (n : Int) := String.ofList (Number.padded width n.toNat)
  let date := "-".intercalate [digits 4 now.year, digits 2 now.month.val, digits 2 now.day.val]
  let time := ":".intercalate
    [digits 2 now.hour.val, digits 2 now.minute.val, digits 2 now.second.val]
  return date ++ " " ++ time ++ "," ++ digits 3 (now.nanosecond.val / 1000000)

/-- Prints a run and gives its exit code. -/
def finish (run : Run) : IO UInt32 := do
  let time ← timeText
  for line in run.errors do
    IO.eprint (line.print time)
  IO.print run.output
  match run.ending with
  | .ok code => return UInt32.ofNat code
  | .error e =>
    IO.eprintln (e.message?.getD "the command was broken off")
    return 1

def runCommand (c : Command) : IO UInt32 := do
  let loaded := Config.load c.configPath (← fileState c.configPath)
  let environment ← IO.getEnv addressVariable
  let location? := loaded.toOption.bind (locationOf? · environment)
  let database ← readDatabase (location?.getD .memory)
  let run := Run.ofCommand c .fresh loaded environment (openingOf database)
  match run.store with
  | some store => writeStore (location?.getD .memory) store
  | none => pure ()
  finish run

end AccessNotices.CommandLine

open AccessNotices.CommandLine in
def main (words : List String) : IO UInt32 :=
  match Invocation.ofCommandLine words with
  | .help s => finish (.printing .fresh s.help)
  | .mistake s message => finish (.mistaken .fresh (s.mistake message))
  | .run c => runCommand c
