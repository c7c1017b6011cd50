import AccessNotices.Value.Basic
import AccessNotices.Text.Quoted
/-!
The texts of values in messages.

`literal` shows a value so that its kind can be seen: a text is quoted, a date is a call of its
constructor. `display` shows a value plainly; what has parts shows its parts as literals. An integer
with too many digits cannot be written, and nothing that holds one (`written?`, `writtenLiteral?`).
-/

namespace AccessNotices

open Number Calendar Text

namespace Calendar

/-- The whole numbers of a moment; zeros are left out at the end, but not the hour and minute. -/
def Moment.numbers (m : Moment) : List Nat :=
  [m.date.year, m.date.month, m.date.day, m.hour, m.minute] ++
    (if m.microsecond = 0 then if m.second = 0 then [] else [m.second]
     else [m.second, m.microsecond])

def offsetLiteral (offset : Int) : String :=
  if offset = 0 then "datetime.timezone.utc"
  else "datetime.timezone(" ++ spanText offset ++ ")"

def Moment.literal (m : Moment) : String :=
  let parts := m.numbers.map natString
  let zone := match m.offset with
    | some offset => ["tzinfo=" ++ offsetLiteral offset]
    | none => []
  "datetime.datetime(" ++ ", ".intercalate (parts ++ zone) ++ ")"

def Date.literal (d : Date) : String :=
  "datetime.date(" ++ ", ".intercalate ([d.year, d.month, d.day].map natString) ++ ")"

end Calendar

namespace Value

def bracketed (left right : String) (items : List String) : String :=
  left ++ ", ".intercalate items ++ right

mutual

def literal : Value → String
  | null => "None"
  | bool b => if b then "True" else "False"
  | int n => intString n
  | float x => String.ofList (Shortest.text x)
  | decimal d => "Decimal('" ++ String.ofList d.text ++ "')"
  | text s => quotedString s
  | codes t => String.ofList (quotedCodes t)
  | role r => "<Role." ++ r.symbol ++ ": '" ++ r.text ++ "'>"
  | bytes b => String.ofList (quotedBytes b)
  | uuid u => "UUID('" ++ u.toString ++ "')"
  | date d => d.literal
  | moment m => m.literal
  | list items => bracketed "[" "]" (literals items)
  | map entries => bracketed "\x7b" "\x7d" (entryLiterals entries)

def literals : List Value → List String
  | [] => []
  | v :: rest => v.literal :: literals rest

def entryLiterals : List (Value × Value) → List String
  | [] => []
  | (k, v) :: rest => (k.literal ++ ": " ++ v.literal) :: entryLiterals rest

end

/-- Is an integer short enough to be written? -/
def isWritableInt (n : Int) : Bool :=
  n.natAbs < Nat.pow 10 digitLimit

mutual

/-- Are all integers in a value short enough to be written? -/
def isWritable : Value → Bool
  | int n => isWritableInt n
  | list items => areWritable items
  | map entries => areEntriesWritable entries
  | _ => true

/-- Can all items of a list be written? -/
def areWritable : List Value → Bool
  | [] => true
  | v :: rest => v.isWritable && areWritable rest

/-- Can all entries of a mapping be written? -/
def areEntriesWritable : List (Value × Value) → Bool
  | [] => true
  | (k, v) :: rest => k.isWritable && v.isWritable && areEntriesWritable rest

end

def display : Value → String
  | text s => s
  | codes t => t.shown
  | role r => "Role." ++ r.symbol
  | decimal d => String.ofList d.text
  | uuid u => u.toString
  | date d => String.ofList d.text
  | moment m => String.ofList (m.text ' ')
  | v => v.literal

def written? (v : Value) : Option String :=
  if v.isWritable then some v.display else none

def writtenLiteral? (v : Value) : Option String :=
  if v.isWritable then some v.literal else none

end Value

end AccessNotices
