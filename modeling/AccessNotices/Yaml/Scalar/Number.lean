import AccessNotices.Number.Literal
import AccessNotices.Text.Case.Written
import AccessNotices.Text.Split
import AccessNotices.Yaml.Text
/-!
The numbers of scalars: how a plain scalar spells one, and what any scalar is read as when it has to
be one.

An integer is binary, octal, hexadecimal, decimal or of base sixty; underscores may stand between
its digits. A floating-point number has a point, and its exponent a sign. Reading is more lenient
than spelling: what is left without underscores may be any numeral.
-/

namespace AccessNotices.Yaml.Scalar

open Number Text

/-! ### Spelling -/

def isDigitOf (base : Nat) (c : Char) : Bool :=
  c == '_' || (c.toNat < 0x80 && (digitValue? c).any (· < base))

/-- Is the text made of digits in a base and of underscores, at least one of them? -/
def areDigits (base : Nat) (s : List Char) : Bool :=
  !s.isEmpty && s.all (isDigitOf base)

/-- Is the text made of decimal digits and underscores, with a digit first? -/
def isDecimal (s : List Char) : Bool :=
  s.head?.any Char.isDigit && areDigits 10 s

/-- A part behind a colon in base sixty: up to `59`, in one digit or two. -/
def isSexagesimalPart (s : List Char) : Bool :=
  match s with
  | [b] => b.isDigit
  | [a, b] => '0' ≤ a && a ≤ '5' && b.isDigit
  | _ => false

/-- Is the text a number in base sixty, with at least one colon? -/
def isSexagesimal (s : List Char) : Bool :=
  match s.splitOn ':' with
  | first :: next :: more => isDecimal first && (next :: more).all isSexagesimalPart
  | _ => false

/-- Does an unsigned text spell an integer? Only in base ten and in base sixty may it not start with
a zero. -/
def isUnsignedInteger (s : List Char) : Bool :=
  match s with
  | '0' :: 'b' :: digits => areDigits 2 digits
  | '0' :: 'x' :: digits => areDigits 16 digits
  | ['0'] => true
  | '0' :: digits => areDigits 8 digits
  | _ => isDecimal s || isSexagesimal s

/-- Does a plain scalar spell an integer? -/
def isInteger (s : List Char) : Bool :=
  isUnsignedInteger (takeSign s).2

def isExponent : List Char → Bool
  | [] => true
  | e :: sign :: digits =>
    (e == 'e' || e == 'E') && (sign == '+' || sign == '-') && !digits.isEmpty &&
      digits.all Char.isDigit
  | _ => false

/-- Is the text a number with a point, and digits around it? -/
def isPointed (s : List Char) : Bool :=
  let whole := s.takeWhile (isDigitOf 10)
  match s.dropWhile (isDigitOf 10) with
  | '.' :: rest =>
    let first := if whole.isEmpty then rest.head? else whole.head?
    first.any Char.isDigit && isExponent (rest.dropWhile (isDigitOf 10))
  | _ => false

/-- Is the text a number in base sixty with a point? -/
def isPointedSexagesimal (s : List Char) : Bool :=
  match cutFirst? ['.'] s with
  | some (whole, fraction) => isSexagesimal whole && fraction.all (isDigitOf 10)
  | none => false

/-- The spellings of infinity and of no number. -/
def infinities : List String := [".inf", ".Inf", ".INF"]

def notNumbers : List String := [".nan", ".NaN", ".NAN"]

/-- Does a plain scalar spell a floating-point number? One that starts with its point takes no
sign. -/
def isFloat (s : List Char) : Bool :=
  let body := (takeSign s).2
  let signed := s.length != body.length
  notNumbers.contains (String.ofList s) || infinities.contains (String.ofList body) ||
    (!(signed && body.head? == some '.') && (isPointed body || isPointedSexagesimal body))

/-! ### Reading -/

def dropUnderscores (s : List Char) : List Char :=
  s.filter (· ≠ '_')

/-- The sign of a number, and what follows it. A number must not be empty. -/
def splitSign (s : List Char) : Except Problem (Bool × List Char) :=
  if s.isEmpty then .error .emptyNumber else .ok (takeSign s)

def decimal (s : List Char) : Except Problem Int :=
  match readDecimal s with
  | .ok n => .ok n
  | .error .notNumeral => .error (.notNumeral 10 s)
  | .error (.tooLong digits) => .error (.tooManyDigits digits)

/-- The integer of a numeral in a base that is a power of two. -/
def inBase (base : Nat) (s : List Char) : Except Problem Int :=
  match readInBase? base s with
  | some n => .ok n
  | none => .error (.notNumeral base s)

/-- The integer of a text without sign and underscores. -/
def unsignedInteger (s : List Char) : Except Problem Int :=
  match s with
  | [] => .error .emptyNumber
  | ['0'] => .ok 0
  | '0' :: 'b' :: digits => inBase 2 digits
  | '0' :: 'x' :: digits => inBase 16 digits
  | '0' :: _ => inBase 8 s
  | _ => do
    let parts ← (s.splitOn ':').mapM decimal
    .ok (parts.foldl (fun n part => n * 60 + part) 0)

def integer (s : List Char) : Except Problem Int := do
  let (negative, body) ← splitSign (dropUnderscores s)
  let n ← unsignedInteger body
  .ok (if negative then -n else n)

/-- The floating-point number of a numeral. -/
def pointed (s : List Char) : Except Problem Binary64 :=
  match readBinary64? s with
  | some x => .ok x
  | none => .error (.notPointed s)

/-- The sum of the parts of a number in base sixty, the last one first. What a place is worth must
not be too large for a floating-point number. -/
def sexagesimalSum : Nat → List Binary64 → Binary64 → Except Problem Binary64
  | _, [], sum => .ok sum
  | worth, part :: more, sum =>
    match Binary64.ofNat worth with
    | .finite w => sexagesimalSum (worth * 60) more (sum.add (part.mul (.finite w)))
    | _ => .error .tooLarge

/-- The floating-point number of a text without sign and underscores, in small letters. -/
def unsignedFloat (s : List Char) : Except Problem Binary64 :=
  if String.ofList s = ".inf" then .ok (.infinite false)
  else if String.ofList s = ".nan" then .ok .nan
  else
    match s.splitOn ':' with
    | first :: next :: more => do
      let parts ← (first :: next :: more).mapM pointed
      sexagesimalSum 1 parts.reverse (.ofNat 0)
    | _ => pointed s

/-- The floating-point number of a scalar. -/
def float (s : List Char) : Except Problem Binary64 := do
  let (negative, body) ← splitSign (lowerWritten (dropUnderscores s))
  let x ← unsignedFloat body
  .ok (if negative then x.negate else x)

end AccessNotices.Yaml.Scalar
