import AccessNotices.Number.Literal
/-!
Decimal numbers that keep their digits: `1.50` is not `1.5`.

A finite number is a sign, a coefficient and an exponent of ten; beside these stand the infinities
and two kinds of no number, which may carry digits. The text is the scientific form of general
decimal arithmetic: plain while the exponent is not positive and the leading digit is at most six
places behind the point, with an exponent otherwise.
-/

namespace AccessNotices.Number

open Text

inductive Decimal where
  | finite (negative : Bool) (coefficient : Nat) (exponent : Int)
  | infinite (negative : Bool)
  | nan (negative signalling : Bool) (payload : Option Nat)
  deriving DecidableEq

namespace Decimal

/-- Why a decimal has no integer. -/
inductive NoInteger where
  | infinite
  | nan
  deriving DecidableEq

def isZero : Decimal → Bool
  | .finite _ coefficient _ => coefficient == 0
  | _ => false

/-- The whole part, cut off toward zero. -/
def truncate : Decimal → Except NoInteger Int
  | .finite negative coefficient exponent =>
    let whole : Nat :=
      if 0 ≤ exponent then coefficient * Nat.pow 10 exponent.toNat
      else if (natText coefficient).length ≤ (-exponent).toNat then 0
      else coefficient / Nat.pow 10 (-exponent).toNat
    .ok (if negative then -(whole : Int) else (whole : Int))
  | .infinite _ => .error .infinite
  | .nan .. => .error .nan

def signText (negative : Bool) : List Char :=
  if negative then ['-'] else []

/-- The digits of a coefficient with the point behind the first `point` of them. -/
def pointed (digits : List Char) (point : Int) : List Char :=
  if point ≤ 0 then '0' :: '.' :: List.replicate (-point).toNat '0' ++ digits
  else if digits.length ≤ point.toNat then
    digits ++ List.replicate (point.toNat - digits.length) '0'
  else digits.take point.toNat ++ '.' :: digits.drop point.toNat

def finiteText (coefficient : Nat) (exponent : Int) : List Char :=
  let digits := natText coefficient
  let left : Int := exponent + digits.length
  if exponent ≤ 0 ∧ -6 < left then pointed digits left
  else
    let shift := left - 1
    let sign := if shift < 0 then '-' else '+'
    let tail := if shift = 0 then [] else 'E' :: sign :: natText shift.natAbs
    pointed digits 1 ++ tail

def text : Decimal → List Char
  | .finite negative coefficient exponent =>
    signText negative ++ finiteText coefficient exponent
  | .infinite negative => signText negative ++ "Infinity".toList
  | .nan negative signalling payload =>
    signText negative ++ (if signalling then "sNaN".toList else "NaN".toList) ++
      (match payload with
        | some n => natText n
        | none => [])

/-- The payload behind a word for no number: digits or nothing. -/
def payload? (s : List Char) : Option (Option Nat) :=
  if s.isEmpty then some none
  else (s.mapM decimalValue?).map fun digits => some (ofDigits 10 digits)

def unsigned? (negative : Bool) (s : List Char) : Option Decimal :=
  let word := smallLetters s
  if word = "inf" ∨ word = "infinity" then some (.infinite negative)
  else if "snan".toList.isPrefixOf word.toList then
    (payload? (s.drop 4)).map (.nan negative true ·)
  else if "nan".toList.isPrefixOf word.toList then
    (payload? (s.drop 3)).map (.nan negative false ·)
  else
    (Literal.unsigned? negative s).map fun l =>
      .finite negative (ofDigits 10 l.digits) l.exponent

/-- The decimal of a text. Blanks around it and underscores anywhere are passed over. -/
def read? (s : List Char) : Option Decimal :=
  let (negative, body) := takeSign ((trim s).filter (· ≠ '_'))
  unsigned? negative body

end Decimal

end AccessNotices.Number
