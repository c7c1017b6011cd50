import AccessNotices.Value.Json
/-!
Reports on input that does not have the shape it should have.

A report names what was to be built and lists the issues in the order of the fields; an issue is the
path to the offending part and a cause.
-/

namespace AccessNotices

namespace Validation

/-- A step from a value to one of its parts. -/
inductive Step where
  | field (name : String)
  | index (n : Nat)
  deriving DecidableEq, Repr

inductive Cause where
  /-- A required field is not there. -/
  | missing
  /-- The part is no text. -/
  | notText
  /-- The part is a byte string that is not UTF-8. -/
  | notUnicode
  /-- The part is no identifier in canonical form; the part is kept for the message. -/
  | notIdentifier (given : Value)
  /-- The part is no role. -/
  | notRole
  /-- The part is no mapping from which this model can be built. -/
  | notModel (name : String)
  /-- The part is no list. -/
  | notList
  /-- The part is no mapping. -/
  | notMapping

def Cause.kind : Cause → String
  | missing => "missing"
  | notText => "string_type"
  | notUnicode => "string_unicode"
  | notIdentifier _ => "value_error"
  | notRole => "enum"
  | notModel _ => "model_type"
  | notList => "list_type"
  | notMapping => "dict_type"

/-- The wording of a cause. A part that cannot be written is not shown. -/
def Cause.message : Cause → String
  | missing => "Field required"
  | notText => "Input should be a valid string"
  | notUnicode =>
    "Input should be a valid string, unable to parse raw data as a unicode string"
  | notIdentifier given =>
    "Value error, " ++ ((given.writtenLiteral?.map ("user id is not a valid UUID: " ++ ·)).getD
      Number.longIntegerText)
  | notRole =>
    "Input should be 'consumer', 'consumer_delegate', 'provider' or 'provider_delegate'"
  | notModel name => "Input should be a valid dictionary or instance of " ++ name
  | notList => "Input should be a valid list"
  | notMapping => "Input should be a valid dictionary"

/-- Something wrong with a part of the input. -/
structure Issue where
  path : List Step
  cause : Cause

/-- Why something could not be built. -/
structure Report where
  subject : String
  issues : List Issue

/-- The text of a value that should be one: a text, a role, or a byte string in UTF-8. Halves of
characters in a text are no reason to refuse it; it is taken as it is shown. -/
def textOf : Value → Except Cause String
  | .text s => .ok s
  | .codes t => .ok t.shown
  | .role r => .ok r.text
  | .bytes b =>
    match Value.decodeBytes b with
    | .ok s => .ok s
    | .error _ => .error .notUnicode
  | _ => .error .notText

def optionalTextOf : Value → Except Cause (Option String)
  | .null => .ok none
  | v => (textOf v).map some

/-- A field as it is spelled in the input: under its first name if that is there, else under its
second. -/
def pick? (name other : String) (entries : List (Value × Value)) : Option (String × Value) :=
  match Value.field? entries name with
  | some v => some (name, v)
  | none => (Value.field? entries other).map (other, ·)

/-- What a field contributes to a report. -/
def issuesOf {α : Type} : Except (List Issue) α → List Issue
  | .ok _ => []
  | .error issues => issues

/-- A field that must be there, read by a given reader. -/
def required {α : Type} (name other : String) (read : Value → Except Cause α)
    (entries : List (Value × Value)) : Except (List Issue) α :=
  match pick? name other entries with
  | none => .error [⟨[.field name], .missing⟩]
  | some (spelled, v) =>
    match read v with
    | .ok a => .ok a
    | .error cause => .error [⟨[.field spelled], cause⟩]

/-- A field that may be missing, which counts as null. -/
def optional {α : Type} (name other : String) (read : Value → Except Cause (Option α))
    (entries : List (Value × Value)) : Except (List Issue) (Option α) :=
  match pick? name other entries with
  | none => .ok none
  | some (spelled, v) =>
    match read v with
    | .ok a => .ok a
    | .error cause => .error [⟨[.field spelled], cause⟩]

end Validation

end AccessNotices
