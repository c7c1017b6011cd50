import AccessNotices.Settings
import AccessNotices.Text.Path
import AccessNotices.Text.Utf8
import AccessNotices.Yaml.Document
/-!
The configuration file: a mapping in YAML.

An empty file counts as an empty mapping. Whatever else keeps a file from being a configuration is a
`LoadError`.
-/

namespace AccessNotices

inductive FileState where
  | missing
  | directory
  | file (bytes : List UInt8)
  /-- The path or a name in it is longer than paths and names may be. -/
  | overlong

inductive LoadError where
  | missing (path : String)
  | directory (path : String)
  | overlong (path : String)
  | notUtf8
  | unreadable (p : Yaml.Problem)
  /-- The file holds something else. -/
  | notMapping (path : String)

/-- The wording of an error of the system, of a configuration, or of a value in it; the others have
none. -/
def LoadError.message? : LoadError → Option String
  | missing path => some ("Config file not found: " ++ path)
  | directory path => some ("[Errno 21] Is a directory: " ++ Text.quotedString path)
  | overlong path => some ("[Errno 36] File name too long: " ++ Text.quotedString path)
  | notUtf8 => none
  | unreadable p => p.valueMessage?
  | notMapping path => some (ConfigProblem.notMapping path).message

namespace Config

/-- Where the configuration is when no path is given. -/
def defaultPath : String := "apdacl.config.yaml"

def shortPath (path : String) : String :=
  String.ofList (Text.shortPath path.toList)

def ofDocument (path : String) : Value → Except LoadError Value
  | .null => .ok (.map [])
  | .map entries => .ok (.map entries)
  | _ => .error (.notMapping path)

/-- The configuration of a file. The path is in its short form. -/
def load (path : String) : FileState → Except LoadError Value
  | .missing => .error (.missing path)
  | .directory => .error (.directory path)
  | .overlong => .error (.overlong path)
  | .file bytes => do
    match Text.Utf8.decode? bytes with
    | none => .error .notUtf8
    | some text =>
      let document ← (Yaml.read text).mapError .unreadable
      ofDocument path document

end Config

end AccessNotices
