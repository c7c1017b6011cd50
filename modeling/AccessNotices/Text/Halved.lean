import AccessNotices.Text.Blank
import AccessNotices.Text.Units
/-!
Texts that hold halves of characters.

A surrogate without its partner is half of a character. A text from outside may hold such halves,
and is given by its codes then; where it is shown, a replacement character stands for each half. A
text of either kind is an `AnyText`. Main statement: it is known from its codes
(`AnyText.codes_inj`).
-/

namespace AccessNotices.Text

/-- Is a code half of a character, that is, a surrogate? -/
def isHalf (n : Nat) : Bool :=
  0xD800 ≤ n && n < 0xE000

/-- The character of a code, a replacement character for half of one. -/
def replacing (n : Nat) : Char :=
  if isHalf n then '\uFFFD' else Char.ofNat n

/-- The characters of a list of codes, with a replacement character for each surrogate without its
partner. -/
def joinReplacing : List Nat → List Char
  | [] => []
  | [n] => [replacing n]
  | n :: m :: rest =>
    match joinUnits [n, m] with
    | some [c] => c :: joinReplacing rest
    | _ => replacing n :: joinReplacing (m :: rest)

/-- A text that is given by codes, some of which are halves of characters. -/
structure HalvedText where
  codes : List Nat
  halved : codes.any isHalf = true
  deriving DecidableEq, Repr

/-- The text with a replacement character for each half. -/
def HalvedText.shown (t : HalvedText) : String :=
  String.ofList (joinReplacing t.codes)

/-- The character of a code is far from ASCII if the code is half of one. -/
theorem le_toNat_replacing {n : Nat} (half : isHalf n = true) : 0xFFFD ≤ (replacing n).toNat := by
  rw [replacing, if_pos half]
  decide

/-- A text with halves of characters never shows as one of ASCII. -/
theorem HalvedText.exists_mem_shown (t : HalvedText) :
    ∃ c ∈ t.shown.toList, 0xFFFD ≤ c.toNat := by
  have shows : ∀ codes : List Nat, codes.any isHalf = true →
      ∃ c ∈ joinReplacing codes, 0xFFFD ≤ c.toNat := by
    intro codes
    induction codes using joinReplacing.induct with
    | case1 => nofun
    | case2 n =>
      intro half
      exact ⟨_, List.mem_singleton_self _, le_toNat_replacing (by simpa using half)⟩
    | case3 n m rest c joined ih =>
      intro _
      rw [joinReplacing, joined]
      exact ⟨c, List.mem_cons_self, Nat.le_trans (by decide) (le_toNat_of_joinUnits joined)⟩
    | case4 n m rest other ih =>
      intro half
      have alone : joinReplacing (n :: m :: rest) = replacing n :: joinReplacing (m :: rest) := by
        rw [joinReplacing]
        split
        · rename_i c joined
          exact absurd joined (other c)
        · rfl
      rw [alone]
      rcases Bool.or_eq_true_iff.mp half with first | behind
      · exact ⟨_, List.mem_cons_self, le_toNat_replacing first⟩
      · obtain ⟨c, mem, far⟩ := ih behind
        exact ⟨c, List.mem_cons_of_mem _ mem, far⟩
  rw [shown, String.toList_ofList]
  exact shows t.codes t.halved

/-- A text of whole characters, or one with halves among them. -/
inductive AnyText where
  | whole (s : String)
  | halved (t : HalvedText)
  deriving DecidableEq, Repr

namespace AnyText

instance : Coe String AnyText := ⟨whole⟩

def codes : AnyText → List Nat
  | whole s => s.toList.map Char.toNat
  | halved t => t.codes

def shown : AnyText → String
  | whole s => s
  | halved t => t.shown

@[simp] theorem shown_whole (s : String) : (whole s).shown = s := rfl

@[simp] theorem shown_halved (t : HalvedText) : (halved t).shown = t.shown := rfl

/-- Has the text no character but blanks? Half of a character is none. -/
def isBlank : AnyText → Bool
  | whole s => isAllBlank s
  | halved _ => false

/-- Texts are ordered by their codes. -/
instance : LE AnyText := ⟨fun a b => b.codes.lex a.codes = false⟩

instance (a b : AnyText) : Decidable (a ≤ b) :=
  inferInstanceAs (Decidable (b.codes.lex a.codes = false))

theorem le_trans {a b c : AnyText} (first : a ≤ b) (second : b ≤ c) : a ≤ c :=
  List.lex_eq_false_iff_ge.mpr (List.le_trans (List.lex_eq_false_iff_ge.mp first)
    (List.lex_eq_false_iff_ge.mp second))

theorem le_total (a b : AnyText) : a ≤ b ∨ b ≤ a :=
  (List.le_total a.codes b.codes).imp List.lex_eq_false_iff_ge.mpr List.lex_eq_false_iff_ge.mpr

/-- No character is half of one. -/
theorem not_isHalf (c : Char) : isHalf c.toNat = false := by
  have bounds : c.toNat < 0xD800 ∨ (0xDFFF < c.toNat ∧ c.toNat < 0x110000) := c.valid
  simp only [isHalf, Bool.and_eq_false_iff, decide_eq_false_iff_not]
  omega

/-- A text of whole characters is none with halves. -/
theorem whole_ne_halved (s : String) (t : HalvedText) : (whole s).codes ≠ t.codes := by
  intro same
  have half := t.halved
  rw [← same, codes, List.any_map, List.any_eq_true] at half
  obtain ⟨c, -, half⟩ := half
  exact Bool.noConfusion ((not_isHalf c).symm.trans half)

/-- A text is known from its codes. -/
theorem codes_inj {a b : AnyText} (same : a.codes = b.codes) : a = b := by
  cases a with
  | whole s =>
    cases b with
    | whole t =>
      have chars : s.toList = t.toList :=
        List.map_inj_right (fun _ _ => Char.toNat_inj.mp) |>.mp same
      rw [String.toList_inj.mp chars]
    | halved t => exact absurd same (whole_ne_halved s t)
  | halved s =>
    cases b with
    | whole t => exact absurd same.symm (whole_ne_halved t s)
    | halved t =>
      obtain ⟨codes, halved⟩ := s
      cases same
      rfl

/-- The order of texts tells them apart. -/
theorem le_antisymm {a b : AnyText} (first : a ≤ b) (second : b ≤ a) : a = b :=
  codes_inj (List.le_antisymm (List.lex_eq_false_iff_ge.mp first)
    (List.lex_eq_false_iff_ge.mp second))

end AnyText

end AccessNotices.Text
