import AccessNotices.Text.Digit
/-!
UTF-8: the texts of byte strings.

`decode?` reads a byte string strictly: a byte that starts no character, a character that is cut
short, an encoding longer than it need be, a surrogate and a code above U+10FFFF are all refused.
`decodeShowing` reads as much as it can and shows the bytes that stand for nothing in another way.
-/

namespace AccessNotices.Text.Utf8

/-- The six payload bits of a continuation byte. -/
def continuation? (b : UInt8) : Option Nat :=
  if 0x80 ≤ b ∧ b < 0xC0 then some (b.toNat - 0x80) else none

/-- The character of a code, if the code is one and is at least `least`, the first code that needs
so many bytes. -/
def scalar? (least code : Nat) : Option Char :=
  if least ≤ code ∧ code.isValidChar then some (Char.ofNat code) else none

/-- The text of a byte string. -/
def decode? : List UInt8 → Option (List Char)
  | [] => some []
  | a :: rest =>
    if a < 0x80 then (decode? rest).map (Char.ofNat a.toNat :: ·)
    else if a < 0xC0 then none
    else if a < 0xE0 then
      match rest with
      | b :: rest => do
        let x ← continuation? b
        let c ← scalar? 0x80 ((a.toNat - 0xC0) * 64 + x)
        (decode? rest).map (c :: ·)
      | _ => none
    else if a < 0xF0 then
      match rest with
      | b₁ :: b₂ :: rest => do
        let x ← continuation? b₁
        let y ← continuation? b₂
        let c ← scalar? 0x800 (((a.toNat - 0xE0) * 64 + x) * 64 + y)
        (decode? rest).map (c :: ·)
      | _ => none
    else if a < 0xF8 then
      match rest with
      | b₁ :: b₂ :: b₃ :: rest => do
        let x ← continuation? b₁
        let y ← continuation? b₂
        let z ← continuation? b₃
        let c ← scalar? 0x10000 ((((a.toNat - 0xF0) * 64 + x) * 64 + y) * 64 + z)
        (decode? rest).map (c :: ·)
      | _ => none
    else none

/-- How many bytes a character has that starts with this byte. -/
def width (first : UInt8) : Nat :=
  if first < 0x80 then 1 else if first < 0xE0 then 2 else if first < 0xF0 then 3 else 4

/-- The text of a byte string, with a text for each byte that belongs to no character. -/
def decodeShowing (foreign : UInt8 → List Char) : List UInt8 → List Char
  | [] => []
  | a :: rest =>
    match decode? ((a :: rest).take (width a)) with
    | some chars => chars ++ decodeShowing foreign (rest.drop (width a - 1))
    | none => foreign a ++ decodeShowing foreign rest
termination_by bytes => bytes.length

/-- The text of a byte string; a byte that belongs to no character becomes its code in
hexadecimal. -/
def decodeEscaping (bytes : List UInt8) : List Char :=
  decodeShowing (fun b => '\\' :: 'x' :: hexDigits 2 b.toNat) bytes

/-- The text of a byte string; a byte that belongs to no character becomes a replacement
character. -/
def decodeReplacing (bytes : List UInt8) : List Char :=
  decodeShowing (fun _ => ['\uFFFD']) bytes

end AccessNotices.Text.Utf8
