import AccessNotices.Yaml.Text
/-!
The byte strings of scalars, which are written in base 64.

Four digits of six bits stand for three bytes. Whatever is no digit is passed over, line ends too.
The text ends early where padding fills up a group of four digits; padding elsewhere is passed over.
-/

namespace AccessNotices.Yaml.Scalar

/-- The value of a digit in base 64. -/
def sextet? (c : Char) : Option Nat :=
  if 'A' ≤ c ∧ c ≤ 'Z' then some (c.toNat - 'A'.toNat)
  else if 'a' ≤ c ∧ c ≤ 'z' then some (c.toNat - 'a'.toNat + 26)
  else if '0' ≤ c ∧ c ≤ '9' then some (c.toNat - '0'.toNat + 52)
  else if c = '+' then some 62
  else if c = '/' then some 63
  else none

/-- What is left of the digits of a group behind the last whole byte. -/
inductive Leftover where
  | none
  | sixBits (n : Nat)
  /-- Four bits, perhaps with the first half of their padding. -/
  | fourBits (n : Nat) (padded : Bool)
  | twoBits (n : Nat)

namespace Leftover

/-- Does the group end with padding here? Else the leftover behind the padding. -/
def pad : Leftover → Option Leftover
  | fourBits n false => some (fourBits n true)
  | fourBits _ true => Option.none
  | twoBits _ => Option.none
  | l => some l

/-- The leftover behind one more digit, and the byte that is complete with it. -/
def push (digit : Nat) : Leftover → Option UInt8 × Leftover
  | none => (Option.none, sixBits digit)
  | sixBits n => (some (.ofNat (n * 4 + digit / 16)), fourBits (digit % 16) false)
  | fourBits n _ => (some (.ofNat (n * 16 + digit / 4)), twoBits (digit % 4))
  | twoBits n => (some (.ofNat (n * 64 + digit)), none)

end Leftover

/-- The bytes of a text in base 64 behind a leftover. The text must not stop inside a group. -/
def bytesFrom? : Leftover → List Char → Option (List UInt8)
  | .none, [] => some []
  | _, [] => none
  | l, c :: rest =>
    if c = '=' then
      match l.pad with
      | some l => bytesFrom? l rest
      | none => some []
    else
      match sextet? c with
      | none => bytesFrom? l rest
      | some digit =>
        let (byte, l) := l.push digit
        (bytesFrom? l rest).map (byte.toList ++ ·)

/-- The byte string of a scalar, which must be written in ASCII. -/
def binary (s : List Char) : Except Problem (List UInt8) :=
  let written := if s.all fun c => c.toNat < 0x80 then bytesFrom? .none s else none
  match written with
  | some bytes => .ok bytes
  | none => .error .notBinary

example : binary "Sm8=\n".toList = .ok [0x4A, 0x6F] :=
  rfl

end AccessNotices.Yaml.Scalar
