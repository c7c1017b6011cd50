import AccessNotices.Number.Binary64
/-!
Floating-point numbers and decimal fractions as they are read from texts.

A literal is a sign, digits with at most one point among or around them, and an exponent of ten.
Digits may be of any script and may have single underscores between them.
-/

namespace AccessNotices.Number

open Text

/-- A decimal literal: `± digits · 10 ^ exponent`, with the number of digits that were written. -/
structure Literal where
  negative : Bool
  digits : List Nat
  exponent : Int
  deriving DecidableEq, Repr

namespace Literal

/-- May the character stand in a run of digits? -/
def inRun (c : Char) : Bool :=
  c == '_' || (decimalValue? c).isSome

/-- A run of digits, which may be empty, and what follows it. -/
def takeDigits? (s : List Char) : Option (List Nat × List Char) :=
  let run := s.takeWhile inRun
  let rest := s.dropWhile inRun
  if run.isEmpty then some ([], rest) else (digitRun? 10 true run).map (·, rest)

/-- The exponent of ten at the end of a literal; zero when there is none. -/
def exponent? : List Char → Option Int
  | [] => some 0
  | e :: rest =>
    if e = 'e' ∨ e = 'E' then do
      let (negative, body) := takeSign rest
      let digits ← digitRun? 10 true body
      some (signedValue negative 10 digits)
    else none

def unsigned? (negative : Bool) (s : List Char) : Option Literal := do
  let (whole, rest) ← takeDigits? s
  let (fraction, rest) ← match rest with
    | '.' :: rest => takeDigits? rest
    | rest => some ([], rest)
  let exponent ← exponent? rest
  if whole.isEmpty ∧ fraction.isEmpty then none
  else some ⟨negative, whole ++ fraction, exponent - fraction.length⟩

/-- The floating-point number nearest to a literal. -/
def toBinary64 (l : Literal) : Binary64 :=
  .ofDecimal l.negative (ofDigits 10 l.digits) l.exponent

end Literal

def smallLetters (s : List Char) : String :=
  String.ofList (s.map Char.toLower)

/-- The floating-point number of a text: a literal, an infinity or no number, with blanks around. -/
def readBinary64? (s : List Char) : Option Binary64 :=
  let (negative, body) := takeSign (trimBy isNumeralBlank s)
  let word := smallLetters body
  if word = "inf" ∨ word = "infinity" then some (.infinite negative)
  else if word = "nan" then some .nan
  else (Literal.unsigned? negative body).map Literal.toBinary64

end AccessNotices.Number
