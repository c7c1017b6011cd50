import AccessNotices.Json.Printer
import AccessNotices.Proofs.Json.Number
import Mathlib.Data.Bool.AllAny
/-!
The characters of JSON texts.

A text on one line is made of the characters from the space to the tilde, whatever characters the
value holds: what is outside of these is written as an escape, and so are controls and the delete
character. Main statement: `visible_encode`.
-/

namespace AccessNotices.Json

open Number Text

/-- A character from the space to the tilde. -/
def IsVisible (c : Char) : Prop :=
  ' ' ≤ c ∧ c ≤ '~'

instance : DecidablePred IsVisible := fun c =>
  inferInstanceAs (Decidable (' ' ≤ c ∧ c ≤ '~'))

/-! ### Strings -/

theorem visible_hexDigits (width n : Nat) : ∀ c ∈ hexDigits width n, IsVisible c := by
  have digit : ∀ d < 16, IsVisible (hexDigit d) := by decide
  induction width generalizing n with
  | zero => exact nofun
  | succ width ih =>
    rw [hexDigits, List.forall_mem_append, List.forall_mem_singleton]
    exact ⟨ih (n / 16), digit (n % 16) (Nat.mod_lt n (by decide))⟩

/-- Escapes are visible. -/
theorem visible_unitEscape (unit : Nat) : ∀ c ∈ unitEscape unit, IsVisible c := by
  rw [unitEscape, List.forall_mem_cons, List.forall_mem_cons]
  exact ⟨by decide, by decide, visible_hexDigits 4 unit⟩

/-- A letter behind a backslash is visible: the quote and the backslash stand for themselves. -/
theorem visible_escapeLetter {c letter : Char} (chosen : escapeLetter? c = some letter) :
    IsVisible letter := by
  unfold escapeLetter? at chosen
  split at chosen
  case isTrue same =>
    cases chosen
    rcases same with rfl | rfl <;> decide
  repeat'
    split at chosen
    · cases chosen
      decide
  cases chosen

/-- Every character is encoded in visible ones. -/
theorem visible_encodeChar (c : Char) : ∀ d ∈ encodeChar c, IsVisible d := by
  unfold encodeChar
  cases chosen : escapeLetter? c with
  | some letter =>
    rw [List.forall_mem_cons, List.forall_mem_singleton]
    exact ⟨by decide, visible_escapeLetter chosen⟩
  | none =>
    simp only
    split
    case isTrue bare => exact List.forall_mem_singleton.mpr bare
    case isFalse =>
      intro d mem
      obtain ⟨unit, -, inside⟩ := List.mem_flatMap.mp mem
      exact visible_unitEscape unit d inside

/-- So is every text. -/
theorem visible_encodeString (s : String) : ∀ c ∈ encodeString s, IsVisible c := by
  rw [encodeString, List.cons_append, List.forall_mem_cons, List.forall_mem_append,
    List.forall_mem_singleton]
  refine ⟨by decide, ?_, by decide⟩
  intro c mem
  obtain ⟨d, -, inside⟩ := List.mem_flatMap.mp mem
  exact visible_encodeChar d c inside

/-! ### Numbers -/

theorem isVisible_of_isDigit {c : Char} (digit : c.isDigit = true) : IsVisible c := by
  rw [Char.isDigit, Bool.and_eq_true, decide_eq_true_eq, decide_eq_true_eq] at digit
  constructor
  · exact UInt32.le_trans (by decide) digit.1
  · exact UInt32.le_trans digit.2 (by decide)

theorem IsDigits.visible {s : List Char} (digits : IsDigits s) : ∀ c ∈ s, IsVisible c :=
  fun c mem => isVisible_of_isDigit (digits.digits c mem)

/-- Integers are visible. -/
theorem visible_intText (n : Int) : ∀ c ∈ intText n, IsVisible c := by
  cases n with
  | ofNat n => exact (isDigits_natText n).visible
  | negSucc n =>
    rw [intText, List.forall_mem_cons]
    exact ⟨by decide, (isDigits_natText (n + 1)).visible⟩

open Shortest

theorem visible_replicate_zero (n : Nat) : ∀ c ∈ List.replicate n '0', IsVisible c := by
  intro c mem
  rw [List.eq_of_mem_replicate mem]
  decide

theorem visible_plain {digits : List Char} (visible : ∀ c ∈ digits, IsVisible c) (point : Int) :
    ∀ c ∈ plain digits point, IsVisible c := by
  rw [plain]
  split
  case isTrue =>
    rw [List.cons_append, List.cons_append, List.forall_mem_cons, List.forall_mem_cons,
      List.forall_mem_append]
    exact ⟨by decide, by decide, visible_replicate_zero _, visible⟩
  case isFalse =>
    simp only
    rw [List.forall_mem_append, List.forall_mem_append, List.forall_mem_cons]
    refine ⟨⟨?_, visible_replicate_zero _⟩, by decide, ?_⟩
    · exact fun c mem => visible c (List.mem_of_mem_take mem)
    · split
      · exact List.forall_mem_singleton.mpr (by decide)
      · exact fun c mem => visible c (List.mem_of_mem_drop mem)

theorem visible_scientific {digits : List Char} (visible : ∀ c ∈ digits, IsVisible c)
    (layout : Layout) (exponent : Int) : ∀ c ∈ scientific layout digits exponent, IsVisible c := by
  unfold scientific
  simp only
  rw [List.forall_mem_append, List.forall_mem_cons, List.forall_mem_cons]
  refine ⟨?_, by decide, ?_, (isDigits_padded _ _).visible⟩
  · cases digits with
    | nil => exact nofun
    | cons lead fraction =>
      rw [List.forall_mem_cons] at visible
      simp only
      split
      · exact List.forall_mem_singleton.mpr visible.1
      · rw [List.forall_mem_cons, List.forall_mem_cons]
        exact ⟨visible.1, by decide, visible.2⟩
  · split <;> decide

/-- Floating-point numbers are visible. -/
theorem visible_finiteText (x : Finite64) : ∀ c ∈ finiteText x, IsVisible c := by
  have body (d : Scaled) : ∀ c ∈ magnitudeText layout d, IsVisible c := by
    have digits := (significant_significantDigits d).isDigits.visible
    unfold magnitudeText
    simp only
    generalize (if d.digits = 0 then 0 else ((natText d.digits).length + d.exponent - 1 : Int)) =
      lead
    split
    · exact visible_plain digits _
    · exact visible_scientific digits layout _
  rw [finiteText]
  split
  · exact List.forall_mem_cons.mpr ⟨by decide, body _⟩
  · exact body _

/-! ### Values -/

theorem visible_encodeScalar (j : Json) : ∀ c ∈ encodeScalar j, IsVisible c := by
  cases j with
  -- Over the letters of the word, and not over all characters.
  | null => exact List.all_iff_forall_prop.mp (by decide)
  | bool b => cases b <;> exact List.all_iff_forall_prop.mp (by decide)
  | int n => exact visible_intText n
  | float x => exact visible_finiteText x
  | string s => exact visible_encodeString s
  | array items => exact nofun
  | object members => exact nofun

mutual

/-- The text of a value on one line holds nothing but visible characters. -/
theorem visible_encode (j : Json) : ∀ c ∈ encode j, IsVisible c := by
  cases j with
  | array items =>
    rw [encode, List.cons_append, List.forall_mem_cons, List.forall_mem_append,
      List.forall_mem_singleton]
    exact ⟨by decide, visible_encodeItems items, by decide⟩
  | object members =>
    rw [encode, List.cons_append, List.forall_mem_cons, List.forall_mem_append,
      List.forall_mem_singleton]
    exact ⟨by decide, visible_encodeMembers members, by decide⟩
  | null => exact visible_encodeScalar .null
  | bool b => exact visible_encodeScalar (.bool b)
  | int n => exact visible_encodeScalar (.int n)
  | float x => exact visible_encodeScalar (.float x)
  | string s => exact visible_encodeScalar (.string s)

/-- Items are visible, with the blanks between them. -/
theorem visible_encodeItems (items : List Json) : ∀ c ∈ encodeItems items, IsVisible c := by
  match items with
  | [] => exact nofun
  | [v] => exact visible_encode v
  | v :: w :: rest =>
    rw [encodeItems, List.forall_mem_append, List.forall_mem_cons, List.forall_mem_cons]
    exact ⟨visible_encode v, by decide, by decide, visible_encodeItems (w :: rest)⟩

theorem visible_encodeMembers (members : List (String × Json)) :
    ∀ c ∈ encodeMembers members, IsVisible c := by
  match members with
  | [] => exact nofun
  | [(k, v)] =>
    rw [encodeMembers, List.forall_mem_append, List.forall_mem_cons, List.forall_mem_cons]
    exact ⟨visible_encodeString k, by decide, by decide, visible_encode v⟩
  | (k, v) :: m :: rest =>
    simp only [encodeMembers, List.forall_mem_append, List.forall_mem_cons]
    exact ⟨⟨visible_encodeString k, by decide, by decide, visible_encode v⟩, by decide, by decide,
      visible_encodeMembers (m :: rest)⟩

end

end AccessNotices.Json
