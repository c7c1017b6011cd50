import AccessNotices.Text.Split
import Mathlib.Data.List.Infix
/-!
Where a text is cut.

A text is cut at a piece exactly when the piece occurs in it (`cutFirst?_eq_none_iff`), and then at
the first occurrence, behind which all the others end (`suffix_of_cutFirst?`). It is cut at the last
occurrence of a character exactly when there is one (`cutLast?_eq_none_iff`). Parts that are put
together around a mark are cut apart there again, whatever the other part holds
(`cutFirst?_append`, `cutLast?_append_cons`).
-/

namespace AccessNotices.Text

variable {α : Type} [BEq α] [LawfulBEq α] {piece s before after : List α} {mark : α}

theorem cutFirst?_eq_none_iff : cutFirst? piece s = none ↔ ¬ piece <:+: s := by
  induction s with
  | nil =>
    rw [cutFirst?, List.infix_nil]
    split
    case isTrue empty => simp [List.isEmpty_iff.mp empty]
    case isFalse some => simpa using some
  | cons c rest ih =>
    rw [cutFirst?, List.infix_cons_iff, ← List.isPrefixOf_iff_prefix]
    split
    case isTrue here => simp [here]
    case isFalse later =>
      rw [Option.map_eq_none_iff, ih, or_iff_right later]

/-- No occurrence of the piece begins before the one at which the text is cut. -/
theorem length_le_of_cutFirst? (cut : cutFirst? piece s = some (before, after))
    {before' after' : List α} (occurs : s = before' ++ piece ++ after') :
    before.length ≤ before'.length := by
  induction s generalizing before before' with
  | nil =>
    have nothing := cutFirst?_eq_some cut
    rw [List.append_assoc, eq_comm, List.append_eq_nil_iff] at nothing
    rw [nothing.1]
    exact Nat.zero_le _
  | cons c rest ih =>
    rw [cutFirst?] at cut
    split at cut
    case isTrue here =>
      cases cut
      exact Nat.zero_le _
    case isFalse later =>
      obtain ⟨⟨first, last⟩, cutRest, same⟩ := Option.map_eq_some_iff.mp cut
      cases same
      cases before' with
      | nil =>
        -- An occurrence at the very start is the one at which the text would have been cut.
        rw [List.nil_append] at occurs
        exact absurd (List.isPrefixOf_iff_prefix.mpr ⟨after', occurs.symm⟩) later
      | cons c' first' =>
        rw [List.append_assoc, List.cons_append, ← List.append_assoc] at occurs
        cases occurs
        exact Nat.succ_le_succ (ih cutRest rfl)

/-- What follows any occurrence of the piece is an end of what follows the first. -/
theorem suffix_of_cutFirst? (cut : cutFirst? piece s = some (before, after))
    {before' after' : List α} (occurs : s = before' ++ piece ++ after') : after' <:+ after := by
  have whole := cutFirst?_eq_some cut
  have shorter := length_le_of_cutFirst? cut occurs
  refine List.suffix_of_suffix_length_le ⟨before' ++ piece, occurs.symm⟩
    ⟨before ++ piece, whole.symm⟩ ?_
  have lengths := congrArg List.length (whole.symm.trans occurs)
  simp only [List.length_append] at lengths
  omega

/-- What stands before the first occurrence of a piece does not hold it. -/
theorem not_infix_of_cutFirst? (filled : piece ≠ [])
    (cut : cutFirst? piece s = some (before, after)) :
    ¬ piece <:+: before := by
  rintro ⟨first, rest, whole⟩
  have earlier : s = first ++ piece ++ (rest ++ piece ++ after) := by
    rw [cutFirst?_eq_some cut, ← whole]
    simp only [List.append_assoc]
  have shorter := length_le_of_cutFirst? cut earlier
  have lengths := congrArg List.length whole
  have positive := List.length_pos_iff.mpr filled
  simp only [List.length_append] at lengths
  omega

/-- A text is cut at the piece that follows a part without it, if the piece cannot overlap itself
because its first character does not come again in it. -/
theorem cutFirst?_append {first : α} {others : List α} (once : first ∉ others)
    (absent : ¬ first :: others <:+: before) :
    cutFirst? (first :: others) (before ++ (first :: others) ++ after) = some (before, after) := by
  cases cut : cutFirst? (first :: others) (before ++ (first :: others) ++ after) with
  | none =>
    exact absurd ⟨before, after, rfl⟩ (cutFirst?_eq_none_iff.mp cut)
  | some parts =>
    obtain ⟨before', after'⟩ := parts
    have whole := cutFirst?_eq_some cut
    have shorter : before'.length ≤ before.length := length_le_of_cutFirst? cut rfl
    simp only [List.append_assoc] at whole
    have inside : before <+: before' ++ (first :: others ++ after') := ⟨_, whole⟩
    obtain ⟨gap, rfl⟩ := List.prefix_of_prefix_length_le (List.prefix_append _ _) inside shorter
    rw [List.append_assoc, List.append_cancel_left_eq] at whole
    cases gap with
    | nil =>
      have same : after = after' := List.append_cancel_left whole
      rw [same, List.append_nil]
    | cons c gap =>
      -- The piece would begin with the gap, and either lie in it or begin a second time inside.
      obtain ⟨rfl, same⟩ := List.cons.inj whole
      rcases List.append_eq_append_iff.mp same with ⟨rest, rfl, again⟩ | ⟨rest, rfl, -⟩
      · cases rest with
        | nil => exact absurd ⟨before', [], by simp⟩ absent
        | cons d rest =>
          obtain ⟨rfl, -⟩ := List.cons.inj again
          exact absurd (List.mem_append_right gap List.mem_cons_self) once
      · exact absurd ⟨before', rest, by simp⟩ absent

theorem cutLast?_eq_none_iff : cutLast? mark s = none ↔ mark ∉ s := by
  induction s with
  | nil => simp [cutLast?]
  | cons c rest ih =>
    rw [cutLast?, List.mem_cons, not_or, ← ih]
    cases cutLast? mark rest with
    | some parts => simp
    | none =>
      dsimp only
      split
      case isTrue here => simp [eq_of_beq here]
      case isFalse other =>
        exact iff_of_true rfl ⟨fun same => other (same ▸ beq_self_eq_true mark), rfl⟩

/-- A text is cut at a mark that a part without marks follows. -/
theorem cutLast?_append_cons (absent : mark ∉ after) :
    cutLast? mark (before ++ mark :: after) = some (before, after) := by
  induction before with
  | nil =>
    rw [List.nil_append, cutLast?, cutLast?_eq_none_iff.mpr absent]
    exact if_pos (beq_self_eq_true mark)
  | cons c rest ih => rw [List.cons_append, cutLast?, ih]

end AccessNotices.Text
