import AccessNotices.Number.Integer
import AccessNotices.Text.Split
/-!
Universally unique identifiers: numbers of 128 bits, their canonical text, and a lenient reader.

The canonical text has thirty-two small hexadecimal digits in groups of 8, 4, 4, 4 and 12 with
hyphens between. The reader takes far more than that: marks of two schemes, braces at the ends,
hyphens anywhere, and whatever else is a hexadecimal numeral of thirty-two characters. The grammar
`IsHyphenated` says which texts are canonical up to the case of letters.
-/

namespace AccessNotices

open Text Number

/-- How many identifiers there are: two to the power of 128. -/
def uuidCount : Nat := 0x100000000000000000000000000000000

/-- An identifier of 128 bits. -/
structure Uuid where
  value : Nat
  value_lt : value < uuidCount
  deriving DecidableEq

namespace Uuid

inductive Problem where
  /-- Without its marks the text has not thirty-two characters. -/
  | badLength
  /-- The thirty-two characters are no hexadecimal numeral. -/
  | notHexadecimal (numeral : String)
  /-- The numeral is negative. -/
  | outOfRange
  deriving DecidableEq, Repr

def Problem.message : Problem → String
  | .badLength => "badly formed hexadecimal UUID string"
  | .notHexadecimal numeral => invalidLiteral 16 numeral
  | .outOfRange => "int is out of range (need a 128-bit value)"

def groupLengths : List Nat := [8, 4, 4, 4, 12]

/-- A text in groups of given lengths, with hyphens between the groups. -/
def grouped : List Nat → List Char → List Char
  | [], _ => []
  | [n], s => s.take n
  | n :: ns, s => s.take n ++ '-' :: grouped ns (s.drop n)

def text (u : Uuid) : List Char :=
  grouped groupLengths (hexDigits 32 u.value)

def toString (u : Uuid) : String :=
  String.ofList u.text

/-- A text without the scheme marks, the braces at its ends and the hyphens. -/
def numeralOf (s : List Char) : List Char :=
  let bare := removeAll "uuid:".toList (removeAll "urn:".toList s)
  (trimBy (fun c => c == '{' || c == '}') bare).filter (· != '-')

/-- The identifier that a text names. -/
def read (s : List Char) : Except Problem Uuid :=
  let numeral := numeralOf s
  if numeral.length ≠ 32 then .error .badLength
  else
    match readInBase? 16 numeral with
    | none => .error (.notHexadecimal (String.ofList numeral))
    | some n =>
      if h : 0 ≤ n ∧ n.toNat < uuidCount then .ok ⟨n.toNat, h.2⟩ else .error .outOfRange

def isHexDigit (c : Char) : Bool :=
  c.isDigit || ('a' ≤ c && c ≤ 'f') || ('A' ≤ c && c ≤ 'F')

/-- The texts that are groups of hexadecimal digits of the given lengths with hyphens between. -/
inductive Groups : List Nat → List Char → Prop where
  | last {s : List Char} : s.all isHexDigit = true → Groups [s.length] s
  | cons {s rest : List Char} {ns : List Nat} :
      s.all isHexDigit = true → Groups ns rest → Groups (s.length :: ns) (s ++ '-' :: rest)

/-- The texts that are canonical up to the case of their letters. -/
def IsHyphenated (s : List Char) : Prop :=
  Groups groupLengths s

end Uuid

end AccessNotices
