import AccessNotices.Perspective
import AccessNotices.Value.Display
import AccessNotices.Vocabulary
/-!
Asking for something by its name: a role, a perspective, or a word of the response vocabulary.

A role may be named by itself or by a text in any case; a perspective and a word only by their exact
texts.
-/

namespace AccessNotices

/-- What was asked for by a name that nothing has. -/
inductive NamingError where
  | role (given : Value)
  | perspective (given : Value)
  | word (symbol : String)

/-- What is said about a value that names no member of a kind, if the value can be written. -/
def notMember (given : Value) (kind : String) : String :=
  (given.writtenLiteral?.map (· ++ " is not a valid " ++ kind)).getD Number.longIntegerText

def NamingError.message : NamingError → String
  | role given => notMember given "Role"
  | perspective given => notMember given "Perspective"
  | word symbol => Text.quotedString symbol

def Role.ofValue (v : Value) : Except NamingError Role :=
  match v with
  | .role r => .ok r
  | .text s =>
    match Role.named? s with
    | some r => .ok r
    | none => .error (.role v)
  | _ => .error (.role v)

def Perspective.ofValue (v : Value) : Except NamingError Perspective :=
  match v with
  | .text s =>
    match Perspective.ofText? s with
    | some p => .ok p
    | none => .error (.perspective v)
  | _ => .error (.perspective v)

def ResponseName.ofSymbol (symbol : String) : Except NamingError ResponseName :=
  match ofSymbol? symbol with
  | some n => .ok n
  | none => .error (.word symbol)

def Status.ofSymbol (symbol : String) : Except NamingError Status :=
  match ofSymbol? symbol with
  | some s => .ok s
  | none => .error (.word symbol)

end AccessNotices
