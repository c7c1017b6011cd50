import AccessNotices.Json.Printer
import AccessNotices.Json.Reader
/-!
Strings in JSON texts.

A character is written as itself, as a short escape or as its code units in hexadecimal; each way it
is read as its code units again, and the code units of a text join to the text. Main statement: what
stands between the quotes of a string is read back, whatever follows (`readString_encodeString`).
-/

namespace AccessNotices.Json

open Number Text

def withCodes (codes : List Nat) (read : List Nat × List Char) : List Nat × List Char :=
  (codes ++ read.1, read.2)

theorem hexValue?_hexDigit : ∀ d < 16, hexValue? (hexDigit d) = some d := by
  decide

theorem hexDigits_four (n : Nat) :
    hexDigits 4 n = [hexDigit (n / 16 / 16 / 16 % 16), hexDigit (n / 16 / 16 % 16),
      hexDigit (n / 16 % 16), hexDigit (n % 16)] := rfl

/-- A code unit that is written as an escape is read back. -/
theorem readCodes_unitEscape {unit : Nat} (small : unit < 0x10000) (rest : List Char) :
    readCodes (unitEscape unit ++ rest) = (readCodes rest).map (withCodes [unit]) := by
  have digit (n : Nat) : hexValue? (hexDigit (n % 16)) = some (n % 16) :=
    hexValue?_hexDigit _ (Nat.mod_lt n (by decide))
  have whole : ((unit / 16 / 16 / 16 % 16 * 16 + unit / 16 / 16 % 16) * 16 + unit / 16 % 16) * 16 +
      unit % 16 = unit := by omega
  rw [unitEscape, hexDigits_four]
  simp only [List.cons_append, List.nil_append]
  rw [readCodes, unitOf?]
  simp only [digit, Option.bind_eq_bind, Option.bind_some, whole]
  cases readCodes rest <;> rfl

/-- A short escape is read as the character that it stands for. -/
theorem readCodes_shortEscape {e c : Char} (short : e ≠ 'u') (escape : shortEscape? e = some c)
    (rest : List Char) :
    readCodes ('\\' :: e :: rest) = (readCodes rest).map (withCodes [c.toNat]) := by
  rw [readCodes.eq_def]
  split
  case h_1 none => cases none
  case h_2 same => cases same
  case h_3 same =>
    cases same
    exact absurd rfl short
  case h_4 same =>
    cases same
    simp only [escape, Option.bind_eq_bind, Option.bind_some]
    cases readCodes rest <;> rfl
  case h_5 later same =>
    cases same
    exact (later e rest rfl rfl).elim

/-- A printable character is read as it stands. -/
theorem readCodes_bare {c : Char} (bare : ' ' ≤ c) (noQuote : c ≠ '\x22') (noEscape : c ≠ '\\')
    (rest : List Char) : readCodes (c :: rest) = (readCodes rest).map (withCodes [c.toNat]) := by
  have plain : ¬ (c < ' ' ∨ c = '\\') := not_or.mpr ⟨Char.not_lt.mpr bare, noEscape⟩
  rw [readCodes.eq_def]
  split
  case h_1 none => cases none
  case h_2 same =>
    cases same
    exact absurd rfl noQuote
  case h_3 same =>
    cases same
    exact absurd rfl noEscape
  case h_4 same =>
    cases same
    exact absurd rfl noEscape
  case h_5 same =>
    cases same
    rw [if_neg plain]
    cases readCodes rest <;> rfl

theorem codeUnits_lt (c : Char) : ∀ unit ∈ codeUnits c, unit < 0x10000 := by
  have bounds : c.toNat < 0xD800 ∨ (0xDFFF < c.toNat ∧ c.toNat < 0x110000) := c.valid
  unfold codeUnits
  simp only
  split
  case isTrue small =>
    intro unit mem
    rw [List.mem_singleton.mp mem]
    exact small
  case isFalse large =>
    intro unit mem
    simp only [List.mem_cons, List.not_mem_nil, or_false] at mem
    rcases mem with high | low
    · omega
    · omega

/-- Escapes of small units are read as these units. -/
theorem readCodes_unitEscapes {units : List Nat} (small : ∀ unit ∈ units, unit < 0x10000)
    (rest : List Char) :
    readCodes (units.flatMap unitEscape ++ rest) = (readCodes rest).map (withCodes units) := by
  induction units with
  | nil =>
    rw [List.flatMap_nil, List.nil_append]
    cases readCodes rest <;> rfl
  | cons unit units ih =>
    rw [List.flatMap_cons, List.append_assoc, readCodes_unitEscape (small unit List.mem_cons_self),
      ih fun u mem => small u (List.mem_cons_of_mem _ mem), Option.map_map]
    rfl

theorem codeUnits_of_lt {c : Char} (small : c.toNat < 0x10000) : codeUnits c = [c.toNat] :=
  if_pos small

/-- The letter of a short escape stands for the character that it was chosen for. -/
theorem shortEscape?_escapeLetter {c letter : Char} (chosen : escapeLetter? c = some letter) :
    shortEscape? letter = some c ∧ letter ≠ 'u' ∧ c.toNat < 0x10000 := by
  unfold escapeLetter? at chosen
  split at chosen
  case isTrue same =>
    cases chosen
    rcases same with rfl | rfl <;> decide
  repeat'
    split at chosen
    · cases chosen
      subst_vars
      decide
  cases chosen

/-- A character is read as its code units, however it is written. -/
theorem readCodes_encodeChar (c : Char) (rest : List Char) :
    readCodes (encodeChar c ++ rest) = (readCodes rest).map (withCodes (codeUnits c)) := by
  unfold encodeChar
  cases chosen : escapeLetter? c with
  | some letter =>
    obtain ⟨escape, short, small⟩ := shortEscape?_escapeLetter chosen
    rw [codeUnits_of_lt small]
    exact readCodes_shortEscape short escape rest
  | none =>
    simp only
    split
    case isTrue bare =>
      have noEscape : c ≠ '\x22' ∧ c ≠ '\\' := by
        constructor <;> (rintro rfl; cases chosen)
      have small : c.toNat < 0x10000 :=
        Nat.lt_of_le_of_lt (UInt32.le_iff_toNat_le.mp bare.2) (by decide)
      rw [codeUnits_of_lt small]
      exact readCodes_bare bare.1 noEscape.1 noEscape.2 rest
    case isFalse => exact readCodes_unitEscapes (codeUnits_lt c) rest

/-- The units of a text join to the text. -/
theorem joinUnits_flatMap_codeUnits (s : List Char) : joinUnits (s.flatMap codeUnits) = some s := by
  induction s with
  | nil => rfl
  | cons c s ih => rw [List.flatMap_cons, joinUnits_codeUnits_append, ih, Option.map_some]

/-- **What is quoted is read back**, unit by unit. -/
theorem readCodes_flatMap_encodeChar (s rest : List Char) :
    readCodes (s.flatMap encodeChar ++ '\x22' :: rest) = some (s.flatMap codeUnits, rest) := by
  induction s with
  | nil => rfl
  | cons c s ih =>
    rw [List.flatMap_cons, List.append_assoc, readCodes_encodeChar, ih]
    rfl

/-- A string is read back from behind its opening quote. -/
theorem readString_encodeString (s : String) (rest : List Char) :
    readString ((encodeString s ++ rest).tail) = some (s, rest) := by
  have inside : (encodeString s ++ rest).tail = s.toList.flatMap encodeChar ++ '\x22' :: rest := by
    simp [encodeString]
  rw [inside, readString, readCodes_flatMap_encodeChar]
  simp only [Option.bind_eq_bind, Option.bind_some, joinUnits_flatMap_codeUnits,
    String.ofList_toList]

end AccessNotices.Json
