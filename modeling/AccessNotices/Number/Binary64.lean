import AccessNotices.Number.Integer
/-!
Binary floating-point numbers of 64 bits, in exact arithmetic.

A finite number is its sign and the ordinal of its magnitude: the place of that magnitude among all
finite magnitudes, zero being the first. The ordinal is the bit pattern without the sign, so
neighbours differ by one and order is the order of ordinals. Rounding takes a fraction of natural
numbers to the nearest magnitude, ties to the even ordinal; sums, products and the reading of
decimals all go through it. Main statement: rounding never leaves the finite range without saying
so, by the type of `Finite64.ofRatio?`.
-/

namespace AccessNotices.Number

/-- The leading bit of a normal number's significand, two to the power of 52: so many ordinals share
an exponent. -/
def leadingBit : Nat := 0x10000000000000

/-- How many finite magnitudes there are. -/
def magnitudeCount : Nat := 2047 * leadingBit

/-- A finite number: a sign and the ordinal of its magnitude. -/
structure Finite64 where
  negative : Bool
  ordinal : Nat
  ordinal_lt : ordinal < magnitudeCount
  deriving DecidableEq

namespace Finite64

def zero (negative : Bool) : Finite64 :=
  ⟨negative, 0, by decide⟩

def isZero (x : Finite64) : Bool :=
  x.ordinal == 0

/-- The significand of an ordinal: the fraction bits, with the leading bit of a normal number. -/
def significandOf (ordinal : Nat) : Nat :=
  if ordinal < leadingBit then ordinal else leadingBit + ordinal % leadingBit

/-- The exponent of two that goes with the significand. -/
def exponentOf (ordinal : Nat) : Int :=
  if ordinal < leadingBit then -1074 else (ordinal / leadingBit : Nat) - 1075

/-- The magnitude of an ordinal as a fraction of natural numbers. -/
def ratioOf (ordinal : Nat) : Nat × Nat :=
  match exponentOf ordinal with
  | .ofNat e => (significandOf ordinal * Nat.pow 2 e, 1)
  | .negSucc e => (significandOf ordinal, Nat.pow 2 (e + 1))

/-- The magnitude of a number as a fraction. -/
def ratio (x : Finite64) : Nat × Nat :=
  ratioOf x.ordinal

/-- The numerator of a number as a fraction, with its sign. -/
def signedNumerator (x : Finite64) : Int :=
  if x.negative then -(x.ratio.1 : Int) else (x.ratio.1 : Int)

/-- The whole part of a number, cut off toward zero. -/
def truncate (x : Finite64) : Int :=
  let whole : Nat := x.ratio.1 / x.ratio.2
  if x.negative then -(whole : Int) else (whole : Int)

/-- The quotient rounded to the nearest natural number, a half to the even one. -/
def roundQuotient (num den : Nat) : Nat :=
  let q := num / den
  let r := num % den
  if den < 2 * r ∨ (den = 2 * r ∧ q % 2 = 1) then q + 1 else q

/-- The largest `e` with `2 ^ e ≤ num / den`, for a positive fraction. -/
def floorLog2 (num den : Nat) : Int :=
  let e : Int := (Nat.log2 num : Int) - (Nat.log2 den : Int)
  let fits :=
    if 0 ≤ e then den * Nat.pow 2 e.toNat ≤ num else den ≤ num * Nat.pow 2 (-e).toNat
  if fits then e else e - 1

/-- The ordinal nearest to a fraction, among all ordinals, those past the finite range included. -/
def nearestOrdinal (num den : Nat) : Nat :=
  if num = 0 ∨ den = 0 then 0
  else
    let unit : Int := max (floorLog2 num den) (-1022) - 52
    let q :=
      if 0 ≤ unit then roundQuotient num (den * Nat.pow 2 unit.toNat)
      else roundQuotient (num * Nat.pow 2 (-unit).toNat) den
    (unit + 1074).toNat * leadingBit + q

/-- The number nearest to a fraction; nothing when that is past the largest finite number. -/
def ofRatio? (negative : Bool) (num den : Nat) : Option Finite64 :=
  let ordinal := nearestOrdinal num den
  if h : ordinal < magnitudeCount then some ⟨negative, ordinal, h⟩ else none

/-- The ordinal nearest to `digits · 10 ^ exponent`. A decimal far outside the range is settled by
its length, so that no power is formed that could not matter. -/
def nearestDecimal (digits : Nat) (exponent : Int) : Nat :=
  let scale : Int := (natText digits).length + exponent
  if digits = 0 ∨ scale < -330 then 0
  else if 330 < scale then magnitudeCount
  else if 0 ≤ exponent then nearestOrdinal (digits * Nat.pow 10 exponent.toNat) 1
  else nearestOrdinal digits (Nat.pow 10 (-exponent).toNat)

/-- The number nearest to a decimal; nothing when that is past the largest finite number. -/
def ofDecimal? (negative : Bool) (digits : Nat) (exponent : Int) : Option Finite64 :=
  let ordinal := nearestDecimal digits exponent
  if h : ordinal < magnitudeCount then some ⟨negative, ordinal, h⟩ else none

end Finite64

/-- A floating-point number: finite, infinite, or no number. -/
inductive Binary64 where
  | finite (x : Finite64)
  | infinite (negative : Bool)
  | nan
  deriving DecidableEq

namespace Binary64

/-- The number nearest to a signed fraction, an infinity when that is too large. -/
def ofRatio (negative : Bool) (num den : Nat) : Binary64 :=
  match Finite64.ofRatio? negative num den with
  | some x => .finite x
  | none => .infinite negative

/-- The number nearest to a decimal, an infinity when that is too large. -/
def ofDecimal (negative : Bool) (digits : Nat) (exponent : Int) : Binary64 :=
  match Finite64.ofDecimal? negative digits exponent with
  | some x => .finite x
  | none => .infinite negative

/-- The number nearest to a natural number. -/
def ofNat (n : Nat) : Binary64 :=
  ofRatio false n 1

def negate : Binary64 → Binary64
  | .finite x => .finite { x with negative := !x.negative }
  | .infinite negative => .infinite !negative
  | .nan => .nan

/-- The rounded product of two numbers; of a zero and an infinity it is no number. -/
def mul : Binary64 → Binary64 → Binary64
  | .finite x, .finite y =>
    ofRatio (x.negative != y.negative) (x.ratio.1 * y.ratio.1) (x.ratio.2 * y.ratio.2)
  | .infinite a, .infinite b => .infinite (a != b)
  | .infinite a, .finite x | .finite x, .infinite a =>
    if x.isZero then .nan else .infinite (a != x.negative)
  | .nan, _ | _, .nan => .nan

/-- The rounded sum of two numbers; of two opposite infinities it is no number. -/
def add : Binary64 → Binary64 → Binary64
  | .finite x, .finite y =>
    let sum := x.signedNumerator * y.ratio.2 + y.signedNumerator * x.ratio.2
    let negative := if sum = 0 then x.negative && y.negative else decide (sum < 0)
    ofRatio negative sum.natAbs (x.ratio.2 * y.ratio.2)
  | .infinite a, .infinite b => if a = b then .infinite a else .nan
  | .infinite a, .finite _ | .finite _, .infinite a => .infinite a
  | .nan, _ | _, .nan => .nan

def isZero : Binary64 → Bool
  | .finite x => x.isZero
  | _ => false

end Binary64

end AccessNotices.Number
