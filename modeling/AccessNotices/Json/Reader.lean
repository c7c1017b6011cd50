import AccessNotices.Json.Basic
import AccessNotices.Number.Integer
import AccessNotices.Text.Digit
import AccessNotices.Text.Units
/-!
Reading JSON texts.

Each reader takes a text and gives what it read and what is left. Values nest, so the reader of
values spends one unit of fuel for each step; a step always consumes a character, so the length of
the text is fuel enough, and `read?` supplies it.
-/

namespace AccessNotices.Json

open Number Text

/-- The blanks between the tokens of a JSON text. -/
def isSpace (c : Char) : Bool :=
  c == ' ' || c == '\n' || c == '\r' || c == '\t'

/-- The text without the blanks at its start. -/
def skipSpace (s : List Char) : List Char :=
  s.dropWhile isSpace

def hexValue? (c : Char) : Option Nat :=
  if c.toNat < 0x80 then digitValue? c else none

/-- The number of four hexadecimal digits. -/
def unitOf? (a b c d : Char) : Option Nat := do
  let a ← hexValue? a
  let b ← hexValue? b
  let c ← hexValue? c
  let d ← hexValue? d
  some (((a * 16 + b) * 16 + c) * 16 + d)

def shortEscape? (c : Char) : Option Char :=
  if c = '\x22' ∨ c = '\\' ∨ c = '/' then some c
  else if c = 'n' then some '\n'
  else if c = 'r' then some '\r'
  else if c = 't' then some '\t'
  else if c = 'b' then some '\x08'
  else if c = 'f' then some '\x0c'
  else none

/-- The codes between the quotes of a string, from behind the opening quote to the closing one:
those of bare characters and the code units of escapes. -/
def readCodes : List Char → Option (List Nat × List Char)
  | [] => none
  | '\x22' :: rest => some ([], rest)
  | '\\' :: 'u' :: a :: b :: c :: d :: rest => do
    let unit ← unitOf? a b c d
    let (codes, rest) ← readCodes rest
    some (unit :: codes, rest)
  | '\\' :: e :: rest => do
    let c ← shortEscape? e
    let (codes, rest) ← readCodes rest
    some (c.toNat :: codes, rest)
  | c :: rest =>
    if c < ' ' ∨ c = '\\' then none
    else do
      let (codes, rest) ← readCodes rest
      some (c.toNat :: codes, rest)

/-- A string, from behind its opening quote. -/
def readString (s : List Char) : Option (String × List Char) := do
  let (codes, rest) ← readCodes s
  let chars ← joinUnits codes
  some (String.ofList chars, rest)

/-- ASCII digits, at least one, and what follows them. -/
def takeDigits (s : List Char) : Option (List Char × List Char) :=
  let digits := s.takeWhile Char.isDigit
  if digits.isEmpty then none else some (digits, s.dropWhile Char.isDigit)

def takeFraction : List Char → Option (Option (List Char) × List Char)
  | '.' :: rest => (takeDigits rest).map fun (digits, rest) => (some digits, rest)
  | s => some (none, s)

def takeExponent : List Char → Option (Option Int × List Char)
  | e :: rest =>
    if e = 'e' ∨ e = 'E' then do
      let (negative, rest) := takeSign rest
      let (digits, rest) ← takeDigits rest
      let size : Int := Nat.ofDigitChars 10 digits 0
      some (some (if negative then -size else size), rest)
    else some (none, e :: rest)
  | [] => some (none, [])

/-- The number of its parts: an integer unless there is a fraction or an exponent. A number past the
finite range is refused. -/
def numberOf (negative : Bool) (whole : List Char) (fraction : Option (List Char))
    (exponent : Option Int) : Option Json :=
  match fraction, exponent with
  | none, none =>
    let size : Int := Nat.ofDigitChars 10 whole 0
    some (.int (if negative then -size else size))
  | _, _ =>
    let places := fraction.getD []
    let digits := Nat.ofDigitChars 10 (whole ++ places) 0
    (Finite64.ofDecimal? negative digits (exponent.getD 0 - places.length)).map .float

/-- A number behind its sign. A zero in front of other digits is refused. -/
def readMagnitude (negative : Bool) (s : List Char) : Option (Json × List Char) := do
  let (whole, s) ← takeDigits s
  if whole.head? = some '0' ∧ whole.length ≠ 1 then none
  let (fraction, s) ← takeFraction s
  let (exponent, s) ← takeExponent s
  (numberOf negative whole fraction exponent).map (·, s)

def readNumber : List Char → Option (Json × List Char)
  | '-' :: rest => readMagnitude true rest
  | s => readMagnitude false s

def readWord (word : String) (value : Json) (s : List Char) : Option (Json × List Char) :=
  if word.toList.isPrefixOf s then some (value, s.drop word.length) else none

mutual

def readValue : Nat → List Char → Option (Json × List Char)
  | 0, _ => none
  | fuel + 1, s =>
    match skipSpace s with
    | '\x22' :: rest => (readString rest).map fun (s, rest) => (.string s, rest)
    | '[' :: rest =>
      match skipSpace rest with
      | ']' :: rest => some (.array [], rest)
      | rest => (readItems fuel rest).map fun (items, rest) => (.array items, rest)
    | '{' :: rest =>
      match skipSpace rest with
      | '}' :: rest => some (.object [], rest)
      | rest => (readMembers fuel rest).map fun (members, rest) => (ofMembers members, rest)
    | 'n' :: rest => readWord "null" .null ('n' :: rest)
    | 't' :: rest => readWord "true" (.bool true) ('t' :: rest)
    | 'f' :: rest => readWord "false" (.bool false) ('f' :: rest)
    | s => readNumber s

/-- The items of an array, up to its closing bracket. -/
def readItems : Nat → List Char → Option (List Json × List Char)
  | 0, _ => none
  | fuel + 1, s => do
    let (v, rest) ← readValue fuel s
    match skipSpace rest with
    | ',' :: rest =>
      let (items, rest) ← readItems fuel rest
      some (v :: items, rest)
    | ']' :: rest => some ([v], rest)
    | _ => none

/-- The members of an object, up to its closing brace. -/
def readMembers : Nat → List Char → Option (List (String × Json) × List Char)
  | 0, _ => none
  | fuel + 1, s =>
    match skipSpace s with
    | '\x22' :: rest => do
      let (k, rest) ← readString rest
      match skipSpace rest with
      | ':' :: rest =>
        let (v, rest) ← readValue fuel rest
        match skipSpace rest with
        | ',' :: rest =>
          let (members, rest) ← readMembers fuel rest
          some ((k, v) :: members, rest)
        | '}' :: rest => some ([(k, v)], rest)
        | _ => none
      | _ => none
    | _ => none

end

/-- The value of a text that is one JSON value with blanks around it. -/
def readChars? (s : List Char) : Option Json :=
  match readValue (2 * s.length + 1) s with
  | some (j, rest) => if (skipSpace rest).isEmpty then some j else none
  | none => none

/-- `readChars?` on strings. -/
def read? (s : String) : Option Json :=
  readChars? s.toList

end AccessNotices.Json
