import AccessNotices.Text.Case
import Mathlib.Data.List.Basic
/-!
Lower case and the letters of ASCII.

An ASCII character has one ASCII character for its lower case (`lowerChar_of_isAscii`). Of all
others only the sign of the unit kelvin becomes ASCII, a small `k`; every other one keeps something
that is not (`exists_not_isAscii_lowerChar`). So a text of ASCII without a `k` is the lower case of
those texts only that differ from it in the case of ASCII letters (`lower_eq_iff`).
-/

namespace AccessNotices.Text

def isAscii (c : Char) : Bool :=
  c.toNat < 0x80

/-- What holds of each code point of ASCII holds of each of its characters. -/
theorem forall_isAscii {P : Char → Prop} (each : ∀ n < 0x80, P (Char.ofNat n)) {c : Char}
    (ascii : isAscii c = true) : P c := by
  have law := each c.toNat (of_decide_eq_true ascii)
  rwa [Char.ofNat_toNat] at law

/-- The sign of the unit kelvin, which has a `k` for its lower case. -/
def kelvinSign : Char := '\u212A'

/-! ### Runs of letters -/

/-- A code point is one of those that a run moves. -/
structure CaseRun.Holds (run : CaseRun) (n : Nat) : Prop where
  first_le : run.first ≤ n
  le_last : n ≤ run.last
  mod_stride : (n - run.first) % run.stride = 0

/-- A code point stays where it is, or it is moved by a run that it belongs to. -/
theorem shiftCase_cases (runs : List CaseRun) (n : Nat) :
    shiftCase runs n = n ∨
      ∃ run ∈ runs, run.Holds n ∧ shiftCase runs n = (n + run.shift).toNat := by
  induction runs with
  | nil => exact .inl rfl
  | cons run rest ih =>
    by_cases below : n < run.first
    · exact .inl (if_pos below)
    by_cases inside : n ≤ run.last ∧ (n - run.first) % run.stride = 0
    · refine .inr ⟨run, List.mem_cons_self, ⟨Nat.le_of_not_lt below, inside.1, inside.2⟩, ?_⟩
      rw [shiftCase, if_neg below, if_pos inside]
    · rw [shiftCase, if_neg below, if_neg inside]
      rcases ih with same | ⟨run', mem, moved⟩
      · exact .inl same
      · exact .inr ⟨run', List.mem_cons_of_mem _ mem, moved⟩

/-- A run keeps away from ASCII: it moves what lies outside of it to characters outside of it. -/
structure CaseRun.StaysOutside (run : CaseRun) : Prop where
  low : 0x80 ≤ run.first + run.shift
  valid : run.last + run.shift < 0xD800 ∨
    (0xDFFF < run.first + run.shift ∧ run.last + run.shift < 0x110000)

instance (run : CaseRun) : Decidable run.StaysOutside :=
  decidable_of_iff (_ ∧ _) ⟨fun h => ⟨h.1, h.2⟩, fun h => ⟨h.1, h.2⟩⟩

/-- Every run to lower case lies in ASCII, is that of the kelvin sign, or keeps away from ASCII. -/
theorem lowerRuns_outside : ∀ run ∈ lowerRuns, run.last < 0x80 ∨
    (run.first = kelvinSign.toNat ∧ run.last = kelvinSign.toNat) ∨ run.StaysOutside := by
  decide +kernel

/-- What is moved by a run that keeps away from ASCII is not of ASCII. -/
theorem CaseRun.StaysOutside.isAscii_ofNat {run : CaseRun} (outside : run.StaysOutside) {n : Nat}
    (first : run.first ≤ n) (last : n ≤ run.last) :
    isAscii (Char.ofNat (n + run.shift).toNat) = false := by
  have low := outside.low
  have valid := outside.valid
  have isValid : Nat.isValidChar (n + run.shift).toNat := by
    unfold Nat.isValidChar
    omega
  have code : (Char.ofNat (n + run.shift).toNat).toNat = (n + run.shift).toNat := by
    rw [Char.ofNat, dif_pos isValid]
    rfl
  rw [isAscii, code, decide_eq_false_iff_not]
  omega

/-! ### Lower case of one character -/

/-- In ASCII the lower case of a character is one character. -/
theorem lowerChar_of_isAscii {c : Char} (ascii : isAscii c = true) :
    lowerChar c = [c.toLower] :=
  forall_isAscii (P := fun c => lowerChar c = [c.toLower]) (by decide +kernel) ascii

/-- Outside of ASCII the lower case of a character is not all ASCII, except for the kelvin sign. -/
theorem exists_not_isAscii_lowerChar {c : Char} (outside : isAscii c = false)
    (other : c ≠ kelvinSign) : ∃ d ∈ lowerChar c, isAscii d = false := by
  have high : 0x80 ≤ c.toNat := Nat.le_of_not_lt (of_decide_eq_false outside)
  by_cases dotted : c.toNat = 0x130
  · -- A capital i with a dot becomes a small one and a dot above.
    refine ⟨'\u0307', ?_, by decide⟩
    rw [lowerChar, mapCase, dotted]
    decide
  have single : lowerChar c = [Char.ofNat (shiftCase lowerRuns c.toNat)] := by
    have absent : lowerExpansions.lookup c.toNat = none := by
      rw [lowerExpansions, List.lookup_cons, beq_false_of_ne dotted]
      rfl
    rw [lowerChar, mapCase, absent]
  refine ⟨_, by rw [single]; exact List.mem_singleton_self _, ?_⟩
  rcases shiftCase_cases lowerRuns c.toNat with same | ⟨run, mem, ⟨first, last, -⟩, moved⟩
  · rw [same, Char.ofNat_toNat]
    exact outside
  · rw [moved]
    rcases lowerRuns_outside run mem with inAscii | ⟨isFirst, isLast⟩ | stays
    · omega
    · exact absurd (Char.toNat_inj.mp (by omega)) other
    · exact stays.isAscii_ofNat first last

theorem isAscii_of_isAscii_toLower {c : Char} (ascii : isAscii c.toLower = true) :
    isAscii c = true := by
  -- Only capital letters of ASCII have another lower case.
  by_cases capital : c.val ≥ 'A'.val ∧ c.val ≤ 'Z'.val
  · exact decide_eq_true (Nat.lt_of_le_of_lt (UInt32.le_iff_toNat_le.mp capital.2) (by decide))
  · have same : c.toLower = c := dif_neg capital
    rwa [same] at ascii

/-! ### Lower case of texts -/

theorem mem_lower_of_mem {s : List Char} {c d : Char} (mem : c ∈ s) (part : d ∈ lowerChar c) :
    d ∈ lower s :=
  List.mem_flatMap.mpr ⟨c, mem, part⟩

/-- The lower case of a text of ASCII is that of its characters, one by one. -/
theorem lower_eq_map {s : List Char} (ascii : ∀ c ∈ s, isAscii c = true) :
    lower s = s.map Char.toLower := by
  rw [lower, ← List.flatMap_singleton' (s.map Char.toLower), List.flatMap_map]
  exact List.flatMap_congr fun c mem => lowerChar_of_isAscii (ascii c mem)

/-- A text of ASCII without a `k` is the lower case of no text but those that are the same up to the
case of ASCII letters. -/
theorem lower_eq_iff {s t : List Char} (plain : ∀ c ∈ t, isAscii c = true ∧ c ≠ 'k') :
    lower s = t ↔ s.map Char.toLower = t := by
  constructor
  · intro same
    have ascii : ∀ c ∈ s, isAscii c = true := by
      intro c mem
      by_contra outside
      rw [Bool.not_eq_true] at outside
      by_cases kelvin : c = kelvinSign
      · subst kelvin
        have found : 'k' ∈ lower s := mem_lower_of_mem mem (by decide +kernel)
        rw [same] at found
        exact (plain 'k' found).2 rfl
      · obtain ⟨d, part, notAscii⟩ := exists_not_isAscii_lowerChar outside kelvin
        have found := mem_lower_of_mem mem part
        rw [same] at found
        rw [(plain d found).1] at notAscii
        cases notAscii
    rw [← lower_eq_map ascii, same]
  · intro same
    rw [← same]
    refine lower_eq_map fun c mem => isAscii_of_isAscii_toLower ?_
    refine (plain c.toLower ?_).1
    rw [← same]
    exact List.mem_map_of_mem mem

end AccessNotices.Text
