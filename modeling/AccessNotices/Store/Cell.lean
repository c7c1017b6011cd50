import AccessNotices.Number.Literal
import AccessNotices.Value.Basic
/-!
Cells: what the columns of stored rows hold, and how they are ordered.

A column for a time prefers numbers: a text that is spelled as a number is held as that number, as
an integer where it is one and as a floating-point number else. Engines differ in how they order the
values of a column, and in where they put the nulls; what they have in common is a `Collation`, and
each has a descending order that is total and transitive (`Collation.descending_total`,
`Collation.descending_trans`). The store that is modelled here puts numbers before texts, and the
nulls last (`Collation.embedded`).
-/

namespace AccessNotices

open Number Calendar Text

/-! ### What a column holds -/

def timeColumns : List String := ["expiry_at", "created_at", "updated_at"]

namespace Cell

/-- The blanks that may stand around a number in a column. -/
def isMargin (c : Char) : Bool :=
  c == ' ' || ('\t' ≤ c && c ≤ '\r')

def isNumberChar (c : Char) : Bool :=
  c.isDigit || c == '.' || c == 'e' || c == 'E' || c == '+' || c == '-'

def literal? (s : List Char) : Option Literal :=
  let (negative, body) := takeSign (trimBy isMargin s)
  if body.all isNumberChar then Literal.unsigned? negative body else none

/-- The largest magnitude of a negative integer in a column, two to the power of 63; positive ones
stay below it. -/
def integerBound : Int := 0x8000000000000000

/-- A floating-point number, as an integer if it is a whole number within the bound. -/
def ofReal (x : Binary64) : Value :=
  match x with
  | .finite f =>
    if f.ratio.1 % f.ratio.2 = 0 ∧ -integerBound < f.truncate ∧ f.truncate < integerBound then
      .int f.truncate
    else .float x
  | x => .float x

/-- The number of a literal: an integer without point and exponent is kept as it is if it is within
the bound. -/
def ofLiteral (isWhole : Bool) (l : Literal) : Value :=
  let n := signedValue l.negative 10 l.digits
  if isWhole ∧ -integerBound ≤ n ∧ n < integerBound then .int n else ofReal l.toBinary64

/-- Is there neither a point nor an exponent in a number? -/
def isWhole (s : List Char) : Bool :=
  s.all fun c => c != '.' && c != 'e' && c != 'E'

/-- What a column for times holds when a text is put into it. -/
def ofTime (s : String) : Value :=
  match literal? s.toList with
  | some l => ofLiteral (isWhole s.toList) l
  | none => .text s

/-- What a column holds when a text is put into it. -/
def ofColumn (column s : String) : Value :=
  if timeColumns.contains column then ofTime s else .text s

/-- Only the columns for times make anything else of a text. -/
theorem ofColumn_of_notMem {column : String} (noTime : timeColumns.contains column = false)
    (s : String) : ofColumn column s = .text s := by
  rw [ofColumn, noTime]
  rfl

end Cell

/-! ### Orders of columns -/

/-- How an engine orders what a column holds: every value has its place, integers are ordered by
size and times as times, and the nulls are greater than everything else, or less. -/
structure Collation where
  le : Value → Value → Bool
  nullsGreatest : Bool
  le_total : ∀ a b, (le a b || le b a) = true
  le_trans : ∀ a b c, le a b = true → le b c = true → le a c = true
  le_int : ∀ m n : Int, le (.int m) (.int n) = decide (m ≤ n)
  le_moment : ∀ a b : Moment, a.offset = none → b.offset = none →
    le (.moment a) (.moment b) = decide (a.localMicroseconds ≤ b.localMicroseconds)

namespace Collation

/-- The order of a column from the greatest down. -/
def descending (c : Collation) : Value → Value → Bool
  | .null, .null => true
  | .null, _ => c.nullsGreatest
  | _, .null => !c.nullsGreatest
  | a, b => c.le b a

variable (c : Collation)

/-- Apart from the nulls the order is the other way round. -/
theorem descending_of_ne_null {a b : Value} (known : a ≠ .null) (known' : b ≠ .null) :
    c.descending a b = c.le b a := by
  unfold descending
  split
  · exact absurd rfl known
  · exact absurd rfl known
  · exact absurd rfl known'
  · rfl

theorem descending_null_left {b : Value} (known : b ≠ .null) :
    c.descending .null b = c.nullsGreatest := by
  cases b with
  | null => exact absurd rfl known
  | _ => rfl

theorem descending_null_right {a : Value} (known : a ≠ .null) :
    c.descending a .null = !c.nullsGreatest := by
  cases a with
  | null => exact absurd rfl known
  | _ => rfl

/-- **The descending order** is total. -/
theorem descending_total (a b : Value) : (c.descending a b || c.descending b a) = true := by
  by_cases none : a = .null
  · subst none
    by_cases none' : b = .null
    · subst none'
      rfl
    · rw [c.descending_null_left none', c.descending_null_right none', Bool.or_not_self]
  · by_cases none' : b = .null
    · subst none'
      rw [c.descending_null_left none, c.descending_null_right none, Bool.not_or_self]
    · rw [c.descending_of_ne_null none none', c.descending_of_ne_null none' none]
      exact c.le_total b a

/-- **The descending order** is transitive. -/
theorem descending_trans (x y z : Value) (first : c.descending x y = true)
    (second : c.descending y z = true) : c.descending x z = true := by
  by_cases noY : y = .null
  · subst noY
    -- Where a null is between two values, it is the least and the greatest, unless one is null too.
    by_cases noX : x = .null
    · rwa [noX]
    by_cases noZ : z = .null
    · rwa [noZ]
    rw [c.descending_null_right noX] at first
    rw [c.descending_null_left noZ] at second
    rw [second] at first
    cases first
  by_cases noX : x = .null
  · subst noX
    rw [c.descending_null_left noY] at first
    by_cases noZ : z = .null
    · rw [noZ]
      rfl
    · rwa [c.descending_null_left noZ]
  by_cases noZ : z = .null
  · subst noZ
    rwa [c.descending_null_right noX, ← c.descending_null_right noY]
  · rw [c.descending_of_ne_null noX noY] at first
    rw [c.descending_of_ne_null noY noZ] at second
    rw [c.descending_of_ne_null noX noZ]
    exact c.le_trans z y x second first

end Collation

/-! ### The order of the embedded store -/

namespace Cell

/-- Kinds of values in their order: numbers, texts, times, and all else. -/
def rank : Value → Nat
  | .int _ => 0
  | .float _ => 0
  | .text _ => 1
  | .moment _ => 2
  | _ => 3

/-- How many of the smallest steps between floating-point numbers a unit has: two to the power of
1074. -/
def stepsOfUnit : Nat := Nat.pow 2 1074

theorem stepsOfUnit_pos : 0 < stepsOfUnit := by
  decide +kernel

/-- The size of what has one, for numbers in steps; an infinity is farther away than any number. -/
def size : Value → Int
  | .int n => n * stepsOfUnit
  | .float (.finite x) =>
    let steps : Int := (x.ratio.1 * (stepsOfUnit / x.ratio.2) : Nat)
    if x.negative then -steps else steps
  | .float (.infinite negative) =>
    let steps : Int := (stepsOfUnit * Nat.pow 2 1024 : Nat)
    if negative then -steps else steps
  | .moment m => m.localMicroseconds
  | _ => 0

def letters : Value → String
  | .text s => s
  | _ => ""

/-- The order of values: by kind, then by size, then by characters. -/
def le (a b : Value) : Bool :=
  decide (rank a < rank b ∨ rank a = rank b ∧
    (size a < size b ∨ size a = size b ∧ letters a ≤ letters b))

theorem le_total (a b : Value) : (le a b || le b a) = true := by
  rw [le, le, Bool.or_eq_true, decide_eq_true_iff, decide_eq_true_iff]
  have lettered := String.le_total (letters a) (letters b)
  grind

theorem le_trans (a b c : Value) (first : le a b = true) (second : le b c = true) :
    le a c = true := by
  rw [le, decide_eq_true_iff] at first second ⊢
  have lettered : letters a ≤ letters b → letters b ≤ letters c → letters a ≤ letters c :=
    String.le_trans
  grind

/-- Values of one kind with the same characters are ordered by size. -/
theorem le_of_size {a b : Value} (sameRank : rank a = rank b)
    (sameLetters : letters a = letters b) : le a b = decide (size a ≤ size b) := by
  rw [le, sameRank, sameLetters]
  have lettered : letters b ≤ letters b := String.le_refl _
  refine decide_eq_decide.mpr ?_
  grind

end Cell

/-- Numbers are ordered by what they amount to and come before texts, which are ordered by their
characters; the nulls are less than everything. -/
def Collation.embedded : Collation where
  le := Cell.le
  nullsGreatest := false
  le_total := Cell.le_total
  le_trans := Cell.le_trans
  le_int := by
    intro m n
    have positive : (0 : Int) < Cell.stepsOfUnit := Int.natCast_pos.mpr Cell.stepsOfUnit_pos
    have bySize : Cell.le (.int m) (.int n) = decide (Cell.size (.int m) ≤ Cell.size (.int n)) :=
      Cell.le_of_size rfl rfl
    rw [bySize]
    exact decide_eq_decide.mpr (Int.mul_le_mul_right positive)
  le_moment := fun _ _ _ _ => Cell.le_of_size rfl rfl

end AccessNotices
