import AccessNotices.Calendar.Moment
import AccessNotices.Number.Shortest
import AccessNotices.Number.Decimal
import AccessNotices.Role
import AccessNotices.Text.Halved
import AccessNotices.Uuid
/-!
Values whose kind is known only when they arrive: the columns of a row, the settings of a
configuration, the claims of a caller.

A mapping is a list of entries; its keys are values too, because a configuration may use any scalar
as a key. For an integer, numbers are cut off toward zero, and texts and byte strings are read as
decimal numerals.
-/

namespace AccessNotices

open Number Calendar

/-- A value of any kind. -/
inductive Value where
  | null
  | bool (b : Bool)
  | int (n : Int)
  | float (x : Binary64)
  | decimal (d : Decimal)
  | text (s : String)
  /-- A text that is given by codes, some of which are halves of characters. -/
  | codes (t : Text.HalvedText)
  | role (r : Role)
  | bytes (b : List UInt8)
  | uuid (u : Uuid)
  | date (d : Date)
  | moment (m : Moment)
  | list (items : List Value)
  | map (entries : List (Value × Value))

namespace Value

instance : Inhabited Value := ⟨null⟩

/-- Values that stand for something: not the null, `false`, a zero, or anything empty. -/
def isTruthy : Value → Bool
  | null => false
  | bool b => b
  | int n => n != 0
  | float x => !x.isZero
  | decimal d => !d.isZero
  | text s => !s.isEmpty
  | codes _ => true
  | role _ => true
  | bytes b => !b.isEmpty
  | uuid _ => true
  | date _ => true
  | moment _ => true
  | list items => !items.isEmpty
  | map entries => !entries.isEmpty

/-- The text of a value that is one: a text, or a role. -/
def asAnyText? : Value → Option Text.AnyText
  | text s => some s
  | codes t => some (.halved t)
  | role r => some r.text
  | _ => none

/-- The text of a value that is one, as it is shown. -/
def asText? (v : Value) : Option String :=
  v.asAnyText?.map Text.AnyText.shown

def isKey (key : String) (v : Value) : Bool :=
  v.asAnyText? == some (.whole key)

def field? (entries : List (Value × Value)) (key : String) : Option Value :=
  (entries.find? fun e => e.1.isKey key).map Prod.snd

/-- A fraction of integers with a positive denominator. -/
structure Fraction where
  num : Int
  den : Nat

/-- The exact value of a number; nothing for an infinity, for no number, and for what is not
numeric. -/
def fraction? : Value → Option Fraction
  | bool b => some ⟨if b then 1 else 0, 1⟩
  | int n => some ⟨n, 1⟩
  | float (.finite x) => some ⟨x.signedNumerator, x.ratio.2⟩
  | decimal (.finite negative coefficient exponent) =>
    let size : Int := (coefficient * Nat.pow 10 exponent.toNat : Nat)
    some ⟨if negative then -size else size, Nat.pow 10 (-exponent).toNat⟩
  | _ => none

/-- Are two values the same key of a mapping? Numbers are compared by what they amount to, whatever
their kind; values with parts are no keys. -/
def sameKey : Value → Value → Bool
  | null, null => true
  | codes a, codes b => a == b
  | codes _, _ | _, codes _ => false
  | bytes a, bytes b => a == b
  | uuid a, uuid b => a == b
  | date a, date b => a == b
  | moment a, moment b => a.sameTime b
  | float .nan, float .nan => true
  | float (.infinite a), float (.infinite b) => a == b
  | a, b =>
    match a.asText?, b.asText? with
    | some s, some t => s == t
    | none, none =>
      match a.fraction?, b.fraction? with
      | some x, some y => x.num * y.den == y.num * x.den
      | _, _ => false
    | _, _ => false

/-- Entries with a value for a key: in the place of the same key if there is one, else at the
end. -/
def putEntry (key value : Value) : List (Value × Value) → List (Value × Value)
  | [] => [(key, value)]
  | (k, v) :: rest =>
    if k.sameKey key then (k, value) :: rest else (k, v) :: putEntry key value rest

def ofFields (fields : List (String × Value)) : Value :=
  .map (fields.map fun (k, v) => (.text k, v))

end Value

/-! ### Integers -/

/-- Why a value has no integer. -/
inductive NoInteger where
  /-- The value is not numeric, is no number, or is a text that is no numeral. -/
  | unsuited
  /-- The value is an infinite floating-point number. -/
  | infiniteFloat
  /-- The value is an infinite decimal. -/
  | infiniteDecimal
  deriving DecidableEq, Repr

namespace Value

def toInteger : Value → Except NoInteger Int
  | bool b => .ok (if b then 1 else 0)
  | int n => .ok n
  | float (.finite x) => .ok x.truncate
  | float (.infinite _) => .error .infiniteFloat
  | float .nan => .error .unsuited
  | decimal d =>
    match d.truncate with
    | .ok n => .ok n
    | .error .infinite => .error .infiniteDecimal
    | .error .nan => .error .unsuited
  | uuid u => .ok u.value
  | bytes b =>
    if b.all (· < 0x80) then ofNumeral (b.map fun x => Char.ofNat x.toNat) else .error .unsuited
  | text s => ofNumeral s.toList
  | _ => .error .unsuited
where
  ofNumeral (s : List Char) : Except NoInteger Int :=
    match readDecimal? s with
    | some n => .ok n
    | none => .error .unsuited

end Value

end AccessNotices
