import AccessNotices.Number.Binary64
/-!
The shortest decimals of binary floating-point numbers, and their texts.

Of all decimals that read back as a number the shortest has the fewest digits, and of those with as
few digits it is the nearest. On the grid of decimals with a given number of digits only the two
neighbours of the number can be it, so the search tries two candidates for each number of digits.
Main statement: the decimal that is found reads back (`nearestDecimal_shortest`).
-/

namespace AccessNotices.Number.Shortest

open Finite64

/-- A decimal `digits · 10 ^ exponent`. -/
structure Scaled where
  digits : Nat
  exponent : Int
  deriving DecidableEq, Repr

/-- How many digits a natural number has, zero having none. -/
def digitCount (n : Nat) : Nat :=
  if n = 0 then 0 else (natText n).length

/-- The `k` with `10 ^ (k - 1) ≤ num / den < 10 ^ k`, for a positive fraction. -/
def decimalScale (num den : Nat) : Int :=
  if den ≤ num then digitCount (num / den) else 1 - digitCount ((den - 1) / num)

/-- The decimals with `count` digits on either side of a fraction, the nearer one first, and the one
with the even last digit first when both are as near. -/
def neighbours (num den count : Nat) : List Scaled :=
  let exponent := decimalScale num den - count
  let (n, d) :=
    if 0 ≤ exponent then (num, den * Nat.pow 10 exponent.toNat)
    else (num * Nat.pow 10 (-exponent).toNat, den)
  let below := n / d
  let distance := 2 * (n % d)
  if distance < d ∨ (distance = d ∧ below % 2 = 0) then
    [⟨below, exponent⟩, ⟨below + 1, exponent⟩]
  else [⟨below + 1, exponent⟩, ⟨below, exponent⟩]

/-- Does the decimal read back as the magnitude with this ordinal? -/
def readsBack (ordinal : Nat) (d : Scaled) : Bool :=
  nearestDecimal d.digits d.exponent == ordinal

/-- The candidates for a magnitude, from one digit to seventeen. -/
def candidates (ordinal : Nat) : List Scaled :=
  let (num, den) := ratioOf ordinal
  (List.range 17).flatMap fun i => neighbours num den (i + 1)

/-- The shortest decimal of the magnitude with this ordinal, if one of up to seventeen digits reads
back. -/
def shortest? (ordinal : Nat) : Option Scaled :=
  if ordinal = 0 then some ⟨0, 0⟩ else (candidates ordinal).find? (readsBack ordinal)

theorem nearestDecimal_shortest {ordinal : Nat} {d : Scaled} (h : shortest? ordinal = some d) :
    nearestDecimal d.digits d.exponent = ordinal := by
  unfold shortest? at h
  split at h
  · rename_i hz
    simp only [Option.some.injEq] at h
    subst h hz
    simp [nearestDecimal]
  · simpa [readsBack] using List.find?_some h

/-- The exact decimal of a magnitude: every binary fraction has one. -/
def exact (ordinal : Nat) : Scaled :=
  match exponentOf ordinal with
  | .ofNat e => ⟨significandOf ordinal * Nat.pow 2 e, 0⟩
  | .negSucc e => ⟨significandOf ordinal * Nat.pow 5 (e + 1), -(e + 1 : Nat)⟩

def decimal (ordinal : Nat) : Scaled :=
  (shortest? ordinal).getD (exact ordinal)

/-- How a decimal is laid out: which exponents of the leading digit are written by the place of the
point, and how many digits an exponent has at least. -/
structure Layout where
  leastPlain : Int
  mostPlain : Int
  exponentDigits : Nat

/-- Plain from `0.0001` up to below `1e+16`; an exponent has a sign and at least two digits. -/
def layout : Layout := ⟨-4, 15, 2⟩

/-- Digits with the point behind the first `point` of them, and a digit on both sides of it. -/
def plain (digits : List Char) (point : Int) : List Char :=
  if point ≤ 0 then '0' :: '.' :: List.replicate (-point).toNat '0' ++ digits
  else
    let whole := digits.take point.toNat
    let fraction := digits.drop point.toNat
    whole ++ List.replicate (point.toNat - whole.length) '0' ++
      '.' :: (if fraction.isEmpty then ['0'] else fraction)

/-- Digits with the point behind the first, if there are more, and an exponent of ten. -/
def scientific (layout : Layout) (digits : List Char) (exponent : Int) : List Char :=
  let mantissa :=
    match digits with
    | lead :: fraction => if fraction.isEmpty then [lead] else lead :: '.' :: fraction
    | [] => []
  let sign := if exponent < 0 then '-' else '+'
  mantissa ++ 'e' :: sign :: padded layout.exponentDigits exponent.natAbs

/-- The digits of a decimal without the zeros at their end. -/
def significantDigits (d : Scaled) : List Char :=
  if d.digits = 0 then ['0'] else Text.dropTrailing (· == '0') (natText d.digits)

def magnitudeText (layout : Layout) (d : Scaled) : List Char :=
  let digits := significantDigits d
  let lead : Int := if d.digits = 0 then 0 else (natText d.digits).length + d.exponent - 1
  if layout.leastPlain ≤ lead ∧ lead ≤ layout.mostPlain then plain digits (lead + 1)
  else scientific layout digits lead

def finiteText (x : Finite64) : List Char :=
  let body := magnitudeText layout (decimal x.ordinal)
  if x.negative then '-' :: body else body

/-- The text of a floating-point number. -/
def text : Binary64 → List Char
  | .finite x => finiteText x
  | .infinite negative => if negative then "-inf".toList else "inf".toList
  | .nan => "nan".toList

end AccessNotices.Number.Shortest
