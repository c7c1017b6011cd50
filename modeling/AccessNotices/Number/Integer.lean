import AccessNotices.Text.Blank
import AccessNotices.Text.Quoted
/-!
Integers as texts: the decimal form that is written, and the wider class of numerals that are read.

A numeral may have blanks around it, one sign, digits of any script, and single underscores between
digits; in the bases two, eight and sixteen `0b`, `0o` or `0x` may come first, its zero in any
script too, with an underscore of its own behind it. Main statement: the written form of a natural
number reads back (`ofDigitChars_natText`).
-/

namespace AccessNotices.Number

open Text

/-- A natural number in decimal. -/
def natText (n : Nat) : List Char :=
  Nat.toDigits 10 n

/-- An integer in decimal: a hyphen for a negative one. -/
def intText : Int → List Char
  | .ofNat n => natText n
  | .negSucc n => '-' :: natText (n + 1)

theorem ofDigitChars_natText (n : Nat) : Nat.ofDigitChars 10 (natText n) 0 = n :=
  Nat.ofDigitChars_ten_toDigits

/-- `intText` on strings. -/
def intString (n : Int) : String :=
  String.ofList (intText n)

/-- `natText` on strings. -/
def natString (n : Nat) : String :=
  String.ofList (natText n)

/-- A number with zeros in front up to a width. -/
def padded (width n : Nat) : List Char :=
  List.replicate (width - (natText n).length) '0' ++ natText n

/-- The digits of a numeral, without the underscores between them. `fresh` says that a digit must
come next, because an underscore or nothing came before. -/
def digitRun? (base : Nat) : Bool → List Char → Option (List Nat)
  | fresh, [] => if fresh then none else some []
  | fresh, c :: rest =>
    if c = '_' then if fresh then none else digitRun? base true rest
    else
      match digitValue? c with
      | some v => if v < base then (digitRun? base false rest).map (v :: ·) else none
      | none => none

/-- The value of a list of digits, the most significant one first. -/
def ofDigits (base : Nat) (digits : List Nat) : Nat :=
  digits.foldl (fun n d => n * base + d) 0

/-- A sign in front of a text: is it a minus, and what follows it? -/
def takeSign : List Char → Bool × List Char
  | '-' :: rest => (true, rest)
  | '+' :: rest => (false, rest)
  | s => (false, s)

def baseLetters (base : Nat) : List Char :=
  match base with
  | 2 => ['b', 'B']
  | 8 => ['o', 'O']
  | 16 => ['x', 'X']
  | _ => []

/-- A text without the mark of its base: a zero of any script, the base's letter, and an underscore
if there is one. -/
def dropBaseMark (base : Nat) : List Char → List Char
  | zero :: letter :: rest =>
    if decimalValue? zero = some 0 ∧ letter ∈ baseLetters base then
      match rest with
      | '_' :: rest => rest
      | rest => rest
    else zero :: letter :: rest
  | s => s

/-- How many digits a decimal numeral may have. -/
def digitLimit : Nat := 4300

def signedValue (negative : Bool) (base : Nat) (digits : List Nat) : Int :=
  if negative then -(ofDigits base digits : Int) else (ofDigits base digits : Int)

/-- Why a text has no integer. -/
inductive NumeralProblem where
  | notNumeral
  /-- There are more digits than a decimal numeral may have. -/
  | tooLong (digits : Nat)
  deriving DecidableEq, Repr

def readDecimal (s : List Char) : Except NumeralProblem Int :=
  let (negative, body) := takeSign (trimBy isNumeralBlank s)
  match digitRun? 10 true body with
  | none => .error .notNumeral
  | some digits =>
    if digits.length ≤ digitLimit then .ok (signedValue negative 10 digits)
    else .error (.tooLong digits.length)

/-- The integer of a decimal numeral, if the text is one. -/
def readDecimal? (s : List Char) : Option Int :=
  (readDecimal s).toOption

/-- The integer of a numeral in a base up to sixteen, which may have the mark of its base. -/
def readInBase? (base : Nat) (s : List Char) : Option Int := do
  let (negative, body) := takeSign (trimBy isNumeralBlank s)
  let digits ← digitRun? base true (dropBaseMark base body)
  some (signedValue negative base digits)

/-- How many characters of a quoted text are shown when it is no numeral. -/
def numeralExcerpt : Nat := 200

/-- What is said about a text that is no numeral in a base. -/
def invalidLiteral (base : Nat) (s : String) : String :=
  "invalid literal for int() with base " ++ natString base ++ ": " ++
    String.ofList ((quoted s.toList).take numeralExcerpt)

/-- What is said about a limit on digits, behind what has too many of them. -/
def digitLimitText (subject : String) : String :=
  "Exceeds the limit (" ++ natString digitLimit ++ " digits) for integer string conversion" ++
    subject ++ "; use sys.set_int_max_str_digits() to increase the limit"

def tooManyDigitsText (count : Nat) : String :=
  digitLimitText (": value has " ++ natString count ++ " digits")

/-- What is said about an integer with too many digits to be written. -/
def longIntegerText : String :=
  digitLimitText ""

/-- What is said about a text that is no decimal integer. -/
def NumeralProblem.message (s : String) : NumeralProblem → String
  | notNumeral => invalidLiteral 10 s
  | tooLong digits => tooManyDigitsText digits

end AccessNotices.Number
