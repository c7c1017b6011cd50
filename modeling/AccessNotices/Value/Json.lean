import AccessNotices.Json.Basic
import AccessNotices.Text.Utf8
import AccessNotices.Value.Display
/-!
The JSON forms of values.

Nulls, truth values, integers, texts and finite numbers stay what they are; an infinity and no
number become null; byte strings become the texts that they encode; all other scalars become their
texts. Four things fail: a byte string that is not UTF-8, a value with too many levels, and a key
that is an integer with too many digits or a text with half of a character; of several failures the
first in reading order counts. Two keys of a mapping may have the same name, as the integer 1 and
the text of it have; then there is one member, with the later value.
-/

namespace AccessNotices

open Number Calendar Text

inductive WritingError where
  /-- A byte string that has to become a text is not UTF-8. -/
  | notUtf8 (bytes : List UInt8)
  /-- A text with halves of characters has to become the name of a member. -/
  | halved (t : HalvedText)
  /-- An integer that has to become a text has too many digits. -/
  | longInteger
  /-- There are more levels than a JSON form may have. -/
  | tooDeep
  deriving DecidableEq

def WritingError.message? : WritingError → Option String
  | notUtf8 _ => none
  | halved _ => none
  | longInteger => some longIntegerText
  | tooDeep => some "Maximum serialization depth exceeded"

namespace Value

/-- How many levels a value may have: a scalar has one, a list or a mapping one more than what it
holds. -/
def levelLimit : Nat := 255

/-- The text that a byte string encodes. -/
def decodeBytes (bytes : List UInt8) : Except WritingError String :=
  match Utf8.decode? bytes with
  | some chars => .ok (String.ofList chars)
  | none => .error (.notUtf8 bytes)

def write (v : Value) : Except WritingError String :=
  match v.written? with
  | some s => .ok s
  | none => .error .longInteger

/-- The name of a member whose key is this value: the value's JSON form if that is a string, else
its text. -/
def memberName : Value → Except WritingError String
  | text s => .ok s
  | codes t => .error (.halved t)
  | role r => .ok r.text
  | bytes b => decodeBytes b
  | bool b => .ok (if b then "true" else "false")
  | moment m => .ok (String.ofList m.interchangeText)
  | v => v.write

/-- The JSON form of a value that is neither a list nor a mapping. -/
def scalarToJson : Value → Except WritingError Json
  | bool b => .ok (.bool b)
  | int n => .ok (.int n)
  | float (.finite x) => .ok (.float x)
  | decimal d => .ok (.string (String.ofList d.text))
  | text s => .ok (.string s)
  | codes t => .ok (.string t.shown)
  | role r => .ok (.string r.text)
  | bytes b => (decodeBytes b).map Json.string
  | uuid u => .ok (.string u.toString)
  | date d => .ok (.string (String.ofList d.text))
  | moment m => .ok (.string (String.ofList m.interchangeText))
  | _ => .ok .null

mutual

/-- The JSON form of a value with at most so many levels. -/
def toJsonWithin (levels : Nat) (v : Value) : Except WritingError Json :=
  match levels with
  | 0 => .error .tooDeep
  | levels + 1 =>
    match v with
    | list items => (itemsToJson levels items).map Json.array
    | map entries => (entriesToJson levels entries).map Json.ofMembers
    | v => v.scalarToJson
termination_by structural v

def itemsToJson (levels : Nat) (items : List Value) : Except WritingError (List Json) :=
  match items with
  | [] => .ok []
  | v :: rest => do
    let j ← v.toJsonWithin levels
    let js ← itemsToJson levels rest
    .ok (j :: js)
termination_by structural items

def entriesToJson (levels : Nat) (entries : List (Value × Value)) :
    Except WritingError (List (String × Json)) :=
  match entries with
  | [] => .ok []
  | (k, v) :: rest => do
    let name ← k.memberName
    let j ← v.toJsonWithin levels
    let members ← entriesToJson levels rest
    .ok ((name, j) :: members)
termination_by structural entries

end

def toJson (v : Value) : Except WritingError Json :=
  v.toJsonWithin levelLimit

end Value

namespace Json

mutual

def toValue : Json → Value
  | null => .null
  | bool b => .bool b
  | int n => .int n
  | float x => .float (.finite x)
  | string s => .text s
  | array items => .list (itemsToValue items)
  | object members => .map (membersToValue members)

def itemsToValue : List Json → List Value
  | [] => []
  | j :: rest => j.toValue :: itemsToValue rest

def membersToValue : List (String × Json) → List (Value × Value)
  | [] => []
  | (k, j) :: rest => (.text k, j.toValue) :: membersToValue rest

end

mutual

/-- Are all integers in a JSON value short enough to be printed? -/
def isPrintable : Json → Bool
  | int n => Value.isWritableInt n
  | array items => arePrintable items
  | object members => areMembersPrintable members
  | _ => true

/-- Can all items of an array be printed? -/
def arePrintable : List Json → Bool
  | [] => true
  | j :: rest => j.isPrintable && arePrintable rest

/-- Can the values of all members of an object be printed? -/
def areMembersPrintable : List (String × Json) → Bool
  | [] => true
  | (_, j) :: rest => j.isPrintable && areMembersPrintable rest

end

end Json

end AccessNotices
