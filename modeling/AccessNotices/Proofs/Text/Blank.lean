import AccessNotices.Text.Blank
import Mathlib.Data.List.DropRight
/-!
What is left of a text without the blanks at its ends.

`Trims` says it without taking anything away: the text stands between characters of the class and
neither begins nor ends with one. There is exactly one such text, the one that trimming gives
(`trimBy_eq_iff`).
-/

namespace AccessNotices.Text

/-- The second text is the first one without the characters of a class at its two ends. -/
structure Trims (p : Char → Bool) (s t : List Char) : Prop where
  between : ∃ before after, s = before ++ t ++ after ∧
    (∀ c ∈ before, p c = true) ∧ ∀ c ∈ after, p c = true
  first : ∀ c ∈ t.head?, p c = false
  last : ∀ c ∈ t.getLast?, p c = false

variable {p : Char → Bool} {s t : List Char}

theorem dropTrailing_append (t : List Char) {after : List Char} (cut : ∀ c ∈ after, p c = true) :
    dropTrailing p (t ++ after) = dropTrailing p t := by
  rw [dropTrailing, List.reverse_append, List.dropWhile_append_of_pos, dropTrailing]
  intro c mem
  exact cut c (List.mem_reverse.mp mem)

theorem dropTrailing_eq_self (last : ∀ c ∈ t.getLast?, p c = false) : dropTrailing p t = t := by
  refine List.rdropWhile_eq_self_iff.mpr fun some => ?_
  rw [last _ (List.getLast?_eq_getLast_of_ne_nil some)]
  exact Bool.false_ne_true

theorem dropWhile_eq_self (first : ∀ c ∈ t.head?, p c = false) : t.dropWhile p = t := by
  cases t with
  | nil => rfl
  | cons c rest => rw [List.dropWhile_cons, first c rfl, if_neg Bool.false_ne_true]

theorem trims_trimBy (p : Char → Bool) (s : List Char) : Trims p s (trimBy p s) where
  between := by
    refine ⟨s.takeWhile p, (s.dropWhile p).rtakeWhile p, ?_, ?_, ?_⟩
    · rw [List.append_assoc, trimBy, dropTrailing]
      exact (List.takeWhile_append_dropWhile.symm).trans
        (congrArg _ List.rdropWhile_append_rtakeWhile.symm)
    · exact fun c mem => List.mem_takeWhile_imp mem
    · exact fun c mem => List.mem_rtakeWhile_imp mem
  first := by
    intro c head
    -- What is left begins as it did before its end was cut off.
    have begins : trimBy p s <+: s.dropWhile p := List.rdropWhile_prefix p _
    obtain ⟨rest, whole⟩ := begins
    have same : (s.dropWhile p).head? = some c := by
      rw [← whole, List.head?_append, head]
      rfl
    have notBlank := List.head?_dropWhile_not p s
    rw [same] at notBlank
    exact notBlank
  last := by
    intro c found
    obtain ⟨some, rfl⟩ := List.mem_getLast?_eq_getLast found
    exact Bool.eq_false_iff.mpr (List.rdropWhile_last_not p _ some)

/-- Trimming gives the one text that stands between characters of the class and neither begins nor
ends with one. -/
theorem trimBy_eq_iff : trimBy p s = t ↔ Trims p s t := by
  constructor
  · rintro rfl
    exact trims_trimBy p s
  · rintro ⟨⟨before, after, rfl, leading, trailing⟩, first, last⟩
    rw [trimBy, List.append_assoc, List.dropWhile_append_of_pos leading]
    cases t with
    | nil =>
      have nothing : after.dropWhile p = [] := List.dropWhile_eq_nil_iff.mpr trailing
      rw [List.nil_append, nothing]
      rfl
    | cons c rest =>
      have stays : (c :: rest ++ after).dropWhile p = c :: rest ++ after :=
        dropWhile_eq_self first
      rw [stays, dropTrailing_append _ trailing, dropTrailing_eq_self last]

theorem trimBy_eq_self (none : ∀ c ∈ s, p c = false) : trimBy p s = s :=
  trimBy_eq_iff.mpr {
    between := ⟨[], [], (List.append_nil s).symm, nofun, nofun⟩
    first := fun c head => none c (List.mem_of_mem_head? head)
    last := fun c last => none c (List.mem_of_mem_getLast? last) }

end AccessNotices.Text
