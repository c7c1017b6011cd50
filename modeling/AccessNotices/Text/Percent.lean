import AccessNotices.Text.Utf8
/-!
Percent-encoding: characters as the bytes of UTF-8, each behind a percent sign in hexadecimal.

Reading takes the escapes of ASCII text as bytes and reads the bytes as UTF-8; what is no escape
stays as it is. Writing leaves letters, digits and four marks alone.
-/

namespace AccessNotices.Text.Percent

/-- The text of ASCII characters and escaped bytes that were read so far, the last one first. -/
def flush (pending : List UInt8) : List Char :=
  Utf8.decodeReplacing pending.reverse

/-- A text with its escapes read, behind bytes that are pending. -/
def decodeFrom : (pending : List UInt8) → List Char → List Char
  | pending, [] => flush pending
  | pending, c :: rest =>
    match c, rest with
    | '%', a :: b :: rest =>
      match asciiHex? a, asciiHex? b with
      | some x, some y => decodeFrom (UInt8.ofNat (x * 16 + y) :: pending) rest
      | _, _ => decodeFrom (0x25 :: pending) (a :: b :: rest)
    | c, rest =>
      if c.toNat < 0x80 then decodeFrom (UInt8.ofNat c.toNat :: pending) rest
      else flush pending ++ c :: decodeFrom [] rest
where
  /-- The value of a hexadecimal digit of ASCII. -/
  asciiHex? (c : Char) : Option Nat :=
    if c.toNat < 0x80 then digitValue? c else none

/-- A text with its escapes read. -/
def decode (s : List Char) : List Char :=
  decodeFrom [] s

/-- A part of a form: plus signs are spaces. -/
def decodeForm (s : List Char) : List Char :=
  decode (s.map fun c => if c = '+' then ' ' else c)

/-- The characters that never need an escape. -/
def isPlain (c : Char) : Bool :=
  c.isAlphanum || c == '_' || c == '.' || c == '-' || c == '~'

def escape (b : UInt8) : List Char :=
  '%' :: (hexDigits 2 b.toNat).map Char.toUpper

/-- A text in which all characters are escaped but the plain ones and some more. -/
def encode (safe : List Char) (s : List Char) : List Char :=
  s.flatMap fun c =>
    if isPlain c || safe.contains c then [c] else (String.utf8EncodeChar c).flatMap escape

/-- A part of a form: spaces are plus signs. -/
def encodeForm (s : List Char) : List Char :=
  (encode [' '] s).map fun c => if c = ' ' then '+' else c

end AccessNotices.Text.Percent
