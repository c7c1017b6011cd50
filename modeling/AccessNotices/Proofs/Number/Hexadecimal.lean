import AccessNotices.Proofs.Text.Blank
import AccessNotices.Proofs.Text.Case
import AccessNotices.Uuid
/-!
Hexadecimal numerals without any ornament.

A text of hexadecimal digits alone is read as the number that its digits make up
(`readInBase?_of_isHexDigit`), and this number, written in as many digits, is the text in lower case
(`hexDigits_ofDigits_hexValue`). Numbers below a power of sixteen have different digits
(`hexDigits_injective`).
-/

namespace AccessNotices.Number

open Text Uuid

/-! ### Digits -/

def hexValue (c : Char) : Nat :=
  (digitValue? c).getD 0

theorem isAscii_of_isHexDigit {c : Char} (hex : isHexDigit c = true) : isAscii c = true := by
  have below : c ≤ 'f' := by
    rw [isHexDigit, Bool.or_eq_true, Bool.or_eq_true, Bool.and_eq_true, Bool.and_eq_true,
      Char.isDigit, Bool.and_eq_true] at hex
    rcases hex with (⟨-, digit⟩ | ⟨-, small⟩) | ⟨-, capital⟩
    · exact Char.le_trans (of_decide_eq_true digit) (by decide)
    · exact of_decide_eq_true small
    · exact Char.le_trans (of_decide_eq_true capital) (by decide)
  exact decide_eq_true (Nat.lt_of_le_of_lt (UInt32.le_iff_toNat_le.mp below) (by decide))

/-- A hexadecimal digit has a value below sixteen, and the digit of this value is the same in lower
case. -/
structure IsValueOf (d : Nat) (c : Char) : Prop where
  read : digitValue? c = some d
  small : d < 16
  written : hexDigit d = c.toLower

instance (d : Nat) (c : Char) : Decidable (IsValueOf d c) :=
  decidable_of_iff (_ ∧ _ ∧ _) ⟨fun h => ⟨h.1, h.2.1, h.2.2⟩, fun h => ⟨h.1, h.2, h.3⟩⟩

theorem hexValue_isValueOf {c : Char} (hex : isHexDigit c = true) : IsValueOf (hexValue c) c :=
  forall_isAscii (P := fun c => isHexDigit c = true → IsValueOf (hexValue c) c) (by decide +kernel)
    (isAscii_of_isHexDigit hex) hex

theorem isHexDigit_hexDigit : ∀ d < 16, isHexDigit (hexDigit d) = true := by
  decide

/-- Different digits are written differently. -/
theorem hexDigit_injective : ∀ d < 16, ∀ e < 16, hexDigit d = hexDigit e → d = e := by
  decide

/-! ### Reading -/

section Reading

variable {s : List Char}

/-- A run of hexadecimal digits is read digit by digit. -/
theorem digitRun?_of_isHexDigit (hex : ∀ c ∈ s, isHexDigit c = true) (fresh : Bool)
    (some_of_fresh : fresh = true → s ≠ []) :
    digitRun? 16 fresh s = some (s.map hexValue) := by
  induction s generalizing fresh with
  | nil =>
    cases fresh with
    | true => exact absurd rfl (some_of_fresh rfl)
    | false => rfl
  | cons c rest ih =>
    have digit := hex c List.mem_cons_self
    have value := hexValue_isValueOf digit
    have others := ih (fun d mem => hex d (List.mem_cons_of_mem _ mem)) false Bool.noConfusion
    have notUnderscore : c ≠ '_' := by
      rintro rfl
      cases digit
    rw [digitRun?, if_neg notUnderscore, value.read]
    simp only [if_pos value.small, others, Option.map_some, List.map_cons]

theorem takeSign_of_isHexDigit (hex : ∀ c ∈ s, isHexDigit c = true) : takeSign s = (false, s) := by
  cases s with
  | nil => rfl
  | cons c rest =>
    have digit := hex c List.mem_cons_self
    unfold takeSign
    split
    · rename_i same
      cases same
      cases digit
    · rename_i same
      cases same
      cases digit
    · rfl

theorem dropBaseMark_of_isHexDigit (hex : ∀ c ∈ s, isHexDigit c = true) :
    dropBaseMark 16 s = s := by
  unfold dropBaseMark
  split
  · rename_i zero letter rest
    refine if_neg fun mark => ?_
    have digit := hex letter (List.mem_cons_of_mem _ List.mem_cons_self)
    -- The letter of the base is no digit in it.
    rcases List.mem_pair.mp mark.2 with rfl | rfl
    · cases digit
    · cases digit
  · rfl

/-- A text of hexadecimal digits is read as the number that they make up. -/
theorem readInBase?_of_isHexDigit (hex : ∀ c ∈ s, isHexDigit c = true) (some : s ≠ []) :
    readInBase? 16 s = .some (ofDigits 16 (s.map hexValue) : Nat) := by
  have noBlank : trimBy isNumeralBlank s = s := trimBy_eq_self fun c mem =>
    forall_isAscii (P := fun c => isHexDigit c = true → isNumeralBlank c = false) (by decide +kernel)
      (isAscii_of_isHexDigit (hex c mem)) (hex c mem)
  rw [readInBase?, noBlank, takeSign_of_isHexDigit hex]
  simp only [dropBaseMark_of_isHexDigit hex, digitRun?_of_isHexDigit hex true fun _ => some]
  rfl

end Reading

/-! ### Writing -/

theorem ofDigits_concat (base : Nat) (digits : List Nat) (d : Nat) :
    ofDigits base (digits ++ [d]) = ofDigits base digits * base + d :=
  List.foldl_concat _ _ _ _

/-- The number that digits make up has these digits. -/
theorem hexDigits_ofDigits {digits : List Nat} (small : ∀ d ∈ digits, d < 16) :
    hexDigits digits.length (ofDigits 16 digits) = digits.map hexDigit := by
  -- The last digit is the remainder, so the induction goes from the end.
  induction digits using List.reverseRecOn with
  | nil => rfl
  | append_singleton digits d ih =>
    have last : d < 16 := small d (List.mem_append_right _ List.mem_cons_self)
    have earlier := ih fun e mem => small e (List.mem_append_left _ mem)
    have quotient : (ofDigits 16 digits * 16 + d) / 16 = ofDigits 16 digits := by omega
    have remainder : (ofDigits 16 digits * 16 + d) % 16 = d := by omega
    rw [List.length_append, List.length_singleton, hexDigits, ofDigits_concat, quotient, remainder,
      earlier, List.map_append, List.map_singleton]

/-- So many digits stay below the power of sixteen. -/
theorem ofDigits_lt {digits : List Nat} (small : ∀ d ∈ digits, d < 16) :
    ofDigits 16 digits < Nat.pow 16 digits.length := by
  induction digits using List.reverseRecOn with
  | nil => decide
  | append_singleton digits d ih =>
    have last : d < 16 := small d (List.mem_append_right _ List.mem_cons_self)
    have earlier := ih fun e mem => small e (List.mem_append_left _ mem)
    have power : Nat.pow 16 (digits.length + 1) = Nat.pow 16 digits.length * 16 := rfl
    rw [List.length_append, List.length_singleton, ofDigits_concat, power]
    omega

/-- A numeral that is read and written again is in small letters. -/
theorem hexDigits_ofDigits_hexValue {s : List Char} (hex : ∀ c ∈ s, isHexDigit c = true) :
    hexDigits s.length (ofDigits 16 (s.map hexValue)) = s.map Char.toLower := by
  have small : ∀ d ∈ s.map hexValue, d < 16 := by
    intro d mem
    obtain ⟨c, found, rfl⟩ := List.mem_map.mp mem
    exact (hexValue_isValueOf (hex c found)).small
  have digits := hexDigits_ofDigits small
  rw [List.length_map, List.map_map] at digits
  rw [digits]
  exact List.map_congr_left fun c mem => (hexValue_isValueOf (hex c mem)).written

theorem ofDigits_hexValue_lt {s : List Char} (hex : ∀ c ∈ s, isHexDigit c = true) :
    ofDigits 16 (s.map hexValue) < Nat.pow 16 s.length := by
  rw [← List.length_map (f := hexValue)]
  refine ofDigits_lt fun d mem => ?_
  obtain ⟨c, found, rfl⟩ := List.mem_map.mp mem
  exact (hexValue_isValueOf (hex c found)).small

theorem toLower_hexDigit : ∀ d < 16, (hexDigit d).toLower = hexDigit d := by
  decide

/-- Numbers are written in small letters. -/
theorem map_toLower_hexDigits (width n : Nat) :
    (hexDigits width n).map Char.toLower = hexDigits width n := by
  induction width generalizing n with
  | zero => rfl
  | succ width ih =>
    rw [hexDigits, List.map_append, ih, List.map_singleton,
      toLower_hexDigit _ (Nat.mod_lt n (by decide))]

/-- Numbers below a power of sixteen are told apart by their digits. -/
theorem hexDigits_injective {width n m : Nat} (hn : n < Nat.pow 16 width)
    (hm : m < Nat.pow 16 width) (same : hexDigits width n = hexDigits width m) : n = m := by
  induction width generalizing n m with
  | zero =>
    have power : Nat.pow 16 0 = 1 := rfl
    omega
  | succ width ih =>
    have power : Nat.pow 16 (width + 1) = Nat.pow 16 width * 16 := rfl
    rw [hexDigits, hexDigits] at same
    obtain ⟨earlier, last⟩ := List.append_inj' same rfl
    have quotients : n / 16 = m / 16 := ih (by omega) (by omega) earlier
    have remainders : n % 16 = m % 16 :=
      hexDigit_injective _ (Nat.mod_lt n (by decide)) _ (Nat.mod_lt m (by decide))
        (List.head_eq_of_cons_eq last)
    omega

end AccessNotices.Number
