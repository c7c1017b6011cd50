import AccessNotices.Text.Printable
import AccessNotices.Text.Digit
import AccessNotices.Text.Halved
/-!
The quoted forms of texts and of byte strings, as error messages show them, and excerpts of what is
too long to be shown.

A text stands between apostrophes, or between double quotes when it holds an apostrophe and no
double quote. Inside, the quote and the backslash take a backslash, tab and the two line ends have
short names, and what is not printable is written as its code in hexadecimal.
-/

namespace AccessNotices.Text

def apostrophe : Char := '\x27'

def doubleQuote : Char := '\x22'

/-- The quote that needs the fewer escapes: the apostrophe, unless only apostrophes occur. -/
def quoteFor (s : List Char) : Char :=
  if s.contains apostrophe && !s.contains doubleQuote then doubleQuote else apostrophe

/-- The code of a character in hexadecimal, in the shortest of three widths that holds it. -/
def codeEscape (n : Nat) : List Char :=
  if n < 0x100 then '\\' :: 'x' :: hexDigits 2 n
  else if n < 0x10000 then '\\' :: 'u' :: hexDigits 4 n
  else '\\' :: 'U' :: hexDigits 8 n

/-- A character with a short name of its own, or one that must not stand bare between quotes. -/
def shortEscape? (quote c : Char) : Option (List Char) :=
  if c = quote ∨ c = '\\' then some ['\\', c]
  else if c = '\t' then some ['\\', 't']
  else if c = '\n' then some ['\\', 'n']
  else if c = '\r' then some ['\\', 'r']
  else none

def quotedChar (quote c : Char) : List Char :=
  match shortEscape? quote c with
  | some escape => escape
  | none => if isPrintable c then [c] else codeEscape c.toNat

def quoted (s : List Char) : List Char :=
  let quote := quoteFor s
  quote :: s.flatMap (quotedChar quote) ++ [quote]

/-- A text with halves of characters between quotes; each half is written as its code. -/
def quotedCodes (t : HalvedText) : List Char :=
  let quote := quoteFor (t.codes.map replacing)
  let shown (n : Nat) := if isHalf n then codeEscape n else quotedChar quote (Char.ofNat n)
  quote :: t.codes.flatMap shown ++ [quote]

/-- One byte of a quoted byte string: printable ASCII bare, all else escaped. -/
def quotedByte (quote c : Char) : List Char :=
  match shortEscape? quote c with
  | some escape => escape
  | none => if 0x20 ≤ c.toNat ∧ c.toNat < 0x7F then [c] else codeEscape c.toNat

def quotedBytes (bytes : List UInt8) : List Char :=
  let chars := bytes.map fun b => Char.ofNat b.toNat
  let quote := quoteFor chars
  'b' :: quote :: chars.flatMap (quotedByte quote) ++ [quote]

def quotedString (s : String) : String :=
  String.ofList (quoted s.toList)

/-! ### Excerpts -/

/-- The longest start of a text that takes at most `bytes` bytes. -/
def startWithin : (bytes : Nat) → List Char → List Char
  | _, [] => []
  | bytes, c :: rest =>
    if c.utf8Size ≤ bytes then c :: startWithin (bytes - c.utf8Size) rest else []

/-- The longest end of a text that takes at most `bytes` bytes. -/
def endWithin (bytes : Nat) (s : List Char) : List Char :=
  (startWithin bytes s.reverse).reverse

/-- How many bytes a text takes. -/
def byteCount (s : List Char) : Nat :=
  (String.ofList s).utf8ByteSize

/-- A text, shortened in the middle when it takes more than fifty bytes. -/
def excerpt (s : List Char) : List Char :=
  if byteCount s ≤ 50 then s else startWithin 25 s ++ "...".toList ++ endWithin 24 s

end AccessNotices.Text
