import Mathlib
import AccessNotices.Proofs.Text.Case
/-!
Upper case is final: a text in upper case is the same in upper case again (`upper_upper`).

The letters that become several are few, and one sees that these stay. The others are moved by runs,
and a run moves all its letters between two code points where no letter changes: whatever other run
reaches there has every second letter only, and the run takes the letters in between
(`upperRuns_vacant`).
-/

namespace AccessNotices.Text

/-! ### Where runs lead -/

namespace CaseRun

/-- The first of the code points that a run leads to. -/
def target (run : CaseRun) : Nat :=
  (run.first + run.shift).toNat

/-- The last of the code points that a run leads to. -/
def lastTarget (run : CaseRun) : Nat :=
  (run.last + run.shift).toNat

/-- Does a run lead to every second code point, or to one only? -/
def isSparse (run : CaseRun) : Bool :=
  Nat.beq run.stride 2 || Nat.beq run.first run.last

/-- Does a run lead to code points that another does not hold? They lie before it or behind it, or
both take every second code point, and not the same ones. This is computed for every two runs, so it
is written with the comparisons that are fast. -/
def misses (run other : CaseRun) : Bool :=
  Nat.blt other.last run.target || Nat.blt run.lastTarget other.first ||
    run.isSparse && Nat.beq other.stride 2 && Nat.beq ((run.target + other.first) % 2) 1

/-- A run leads to characters. -/
structure LeadsToChars (run : CaseRun) : Prop where
  low : 0 ≤ run.first + run.shift
  valid : run.lastTarget < 0xD800 ∨ (0xDFFF < run.target ∧ run.lastTarget < 0x110000)

instance (run : CaseRun) : Decidable run.LeadsToChars :=
  decidable_of_iff (_ ∧ _) ⟨fun h => ⟨h.1, h.2⟩, fun h => ⟨h.1, h.2⟩⟩

variable {run other : CaseRun} {n : Nat}

theorem target_le (held : run.Holds n) : run.target ≤ (n + run.shift).toNat := by
  have first := held.first_le
  rw [target]
  omega

theorem le_lastTarget (held : run.Holds n) : (n + run.shift).toNat ≤ run.lastTarget := by
  have last := held.le_last
  rw [lastTarget]
  omega

/-- A sparse run leads to even code points only, or to odd ones. -/
theorem mod_two_of_isSparse (low : 0 ≤ run.first + run.shift) (sparse : run.isSparse = true)
    (held : run.Holds n) : (n + run.shift).toNat % 2 = run.target % 2 := by
  obtain ⟨first, last, stride⟩ := held
  rw [isSparse, Bool.or_eq_true, Nat.beq_eq, Nat.beq_eq] at sparse
  rw [target]
  rcases sparse with two | single
  · rw [two] at stride
    omega
  · omega

/-- What a run leads to is not moved by a run that it misses. -/
theorem not_holds_of_misses (low : 0 ≤ run.first + run.shift) (misses : run.misses other = true)
    (held : run.Holds n) : ¬ other.Holds (n + run.shift).toNat := by
  rintro ⟨first, last, stride⟩
  have lower := target_le held
  have upper := le_lastTarget held
  simp only [CaseRun.misses, Bool.or_eq_true, Bool.and_eq_true, Nat.blt_eq, Nat.beq_eq] at misses
  rcases misses with (before | behind) | ⟨⟨sparse, two⟩, odd⟩
  · omega
  · omega
  · have same := mod_two_of_isSparse low sparse held
    rw [two] at stride
    omega

end CaseRun

/-- Every run to upper case leads to characters that no run to upper case holds. -/
theorem upperRuns_vacant : (upperRuns.all fun run =>
    decide run.LeadsToChars && upperRuns.all run.misses) = true := by
  decide +kernel

/-- No letter that becomes several in upper case is between those to which a run leads. -/
theorem upperExpansions_missed : (upperRuns.all fun run => upperExpansions.all fun entry =>
    Nat.blt entry.1 run.target || Nat.blt run.lastTarget entry.1) = true := by
  decide +kernel

/-! ### Upper case of one character -/

variable {c d : Char} {s : List Char}

/-- A letter stays if it neither becomes several nor is moved. -/
theorem upperChar_eq_self (single : upperExpansions.lookup c.toNat = none)
    (still : shiftCase upperRuns c.toNat = c.toNat) : upperChar c = [c] := by
  rw [upperChar, mapCase, single]
  dsimp only
  rw [still, Char.ofNat_toNat]

/-- The letters that one letter becomes stay. -/
theorem upperChar_of_expansion :
    ∀ entry ∈ upperExpansions, ∀ n ∈ entry.2, upperChar (Char.ofNat n) = [Char.ofNat n] := by
  decide +kernel

/-- A letter stays where a run has moved it. -/
theorem upperChar_of_moved {run : CaseRun} {n : Nat} (mem : run ∈ upperRuns) (held : run.Holds n) :
    upperChar (Char.ofNat (n + run.shift).toNat) = [Char.ofNat (n + run.shift).toNat] := by
  have vacant := List.all_eq_true.mp upperRuns_vacant run mem
  rw [Bool.and_eq_true, decide_eq_true_eq] at vacant
  obtain ⟨⟨low, valid⟩, misses⟩ := vacant
  have lower := CaseRun.target_le held
  have upper := CaseRun.le_lastTarget held
  have isValid : Nat.isValidChar (n + run.shift).toNat := by
    unfold Nat.isValidChar
    omega
  have code : (Char.ofNat (n + run.shift).toNat).toNat = (n + run.shift).toNat := by
    rw [Char.toNat_ofNat, if_pos isValid]
  -- Where the run leads there is neither a letter that becomes several nor one that is moved.
  refine upperChar_eq_self ?_ ?_
  · rw [code, List.lookup_eq_none_iff]
    intro entry listed
    have each := List.all_eq_true.mp upperExpansions_missed run mem
    have missed := List.all_eq_true.mp each entry listed
    rw [Bool.or_eq_true, Nat.blt_eq, Nat.blt_eq] at missed
    rw [bne_iff_ne]
    omega
  · rw [code]
    rcases shiftCase_cases upperRuns (n + run.shift).toNat with same | ⟨other, mem', held', -⟩
    · exact same
    · have apart := List.all_eq_true.mp misses other mem'
      exact absurd held' (CaseRun.not_holds_of_misses low apart held)

/-- What a letter becomes in upper case stays in upper case. -/
theorem upperChar_of_mem (mem : d ∈ upperChar c) : upperChar d = [d] := by
  cases expansion : upperExpansions.lookup c.toNat with
  | some letters =>
    obtain ⟨before, after, whole, -⟩ := List.lookup_eq_some_iff.mp expansion
    have listed : (c.toNat, letters) ∈ upperExpansions := by simp [whole]
    rw [upperChar, mapCase, expansion] at mem
    obtain ⟨n, inside, rfl⟩ := List.mem_map.mp mem
    exact upperChar_of_expansion _ listed n inside
  | none =>
    rw [upperChar, mapCase, expansion, List.mem_singleton] at mem
    rcases shiftCase_cases upperRuns c.toNat with same | ⟨run, mem', held, moved⟩
    · rw [same, Char.ofNat_toNat] at mem
      rw [mem]
      exact upperChar_eq_self expansion same
    · rw [mem, moved]
      exact upperChar_of_moved mem' held

/-! ### Upper case of texts -/

theorem upper_eq_self (stays : ∀ c ∈ s, upperChar c = [c]) : upper s = s := by
  rw [upper, List.flatMap_congr stays, List.flatMap_singleton']

/-- **Capital letters** stay as they are. -/
theorem upper_upper (s : List Char) : upper (upper s) = upper s := by
  refine upper_eq_self fun d mem => ?_
  obtain ⟨c, -, part⟩ := List.mem_flatMap.mp mem
  exact upperChar_of_mem part

theorem uppered_uppered (s : String) : uppered (uppered s) = uppered s := by
  rw [uppered, uppered, String.toList_ofList, upper_upper]

end AccessNotices.Text
