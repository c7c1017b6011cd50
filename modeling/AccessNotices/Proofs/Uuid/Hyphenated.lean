import AccessNotices.Proofs.Number.Hexadecimal
import Mathlib.Algebra.GroupWithZero.Nat
/-!
The hyphenated form of identifiers.

The reader takes many spellings of a number, and the canonical text of what it reads is the text in
lower case for the hyphenated ones alone: exactly these are groups of 8, 4, 4, 4 and 12 hexadecimal
digits with hyphens between (`isHyphenated_iff`). A number has one canonical text
(`text_injective`).
-/

namespace AccessNotices

open Text Number

/-! ### Removing what is not there -/

/-- A piece with a character that the text does not have is nowhere in the text. -/
theorem Text.removeAll_eq_self {piece s : List Char} {c : Char} (mem : c ∈ piece)
    (absent : c ∉ s) : removeAll piece s = s := by
  rw [removeAll]
  induction s with
  | nil => rfl
  | cons d rest ih =>
    have notHere : ¬ piece.isPrefixOf (d :: rest) = true := fun here =>
      absent ((List.isPrefixOf_iff_prefix.mp here).subset mem)
    rw [removeAllFrom, if_neg notHere, ih fun later => absent (List.mem_cons_of_mem d later)]

namespace Uuid

/-! ### Digits and hyphens -/

theorem isHexDigit_of_toLower {c : Char} (hex : isHexDigit c.toLower = true) :
    isHexDigit c = true :=
  forall_isAscii (P := fun c => isHexDigit c.toLower = true → isHexDigit c = true)
    (by decide +kernel) (isAscii_of_isAscii_toLower (isAscii_of_isHexDigit hex)) hex

theorem eq_hyphen_of_toLower {c : Char} (hyphen : c.toLower = '-') : c = '-' :=
  forall_isAscii (P := fun c => c.toLower = '-' → c = '-') (by decide +kernel)
    (isAscii_of_isAscii_toLower (hyphen ▸ by decide)) hyphen

theorem isHexDigit_of_map_toLower {s : List Char}
    (hex : (s.map Char.toLower).all isHexDigit = true) :
    s.all isHexDigit = true := by
  rw [List.all_map, List.all_eq_true] at hex
  exact List.all_eq_true.mpr fun c mem => isHexDigit_of_toLower (hex c mem)

/-- The characters of a text other than hyphens. -/
def withoutHyphens (s : List Char) : List Char :=
  s.filter (· != '-')

/-- Digits have no hyphens to lose. -/
theorem withoutHyphens_of_isHexDigit {s : List Char} (hex : ∀ c ∈ s, isHexDigit c = true) :
    withoutHyphens s = s := by
  refine List.filter_eq_self.mpr fun c mem => bne_iff_ne.mpr ?_
  rintro rfl
  cases hex '-' mem

theorem withoutHyphens_append_cons (s rest : List Char) :
    withoutHyphens (s ++ '-' :: rest) = withoutHyphens s ++ withoutHyphens rest := by
  rw [withoutHyphens, List.filter_append, List.filter_cons_of_neg (by decide)]
  rfl

theorem grouped_cons {n : Nat} {ns : List Nat} (more : ns ≠ []) (s : List Char) :
    grouped (n :: ns) s = s.take n ++ '-' :: grouped ns (s.drop n) := by
  cases ns with
  | nil => exact absurd rfl more
  | cons m ns => rfl

/-- Small letters may be taken before or after the hyphens are put in. -/
theorem map_toLower_grouped (lengths : List Nat) (s : List Char) :
    (grouped lengths s).map Char.toLower = grouped lengths (s.map Char.toLower) := by
  fun_induction grouped lengths s with
  | case1 s => rfl
  | case2 n s => rw [grouped, List.map_take]
  | case3 n ns s more ih =>
    rw [grouped_cons more, List.map_append, List.map_cons, ih, List.map_take, List.map_drop]
    rfl

/-! ### Groups -/

namespace Groups

variable {lengths : List Nat} {s : List Char}

theorem lengths_ne_nil (groups : Groups lengths s) : lengths ≠ [] := by
  cases groups with
  | last => exact List.cons_ne_nil _ _
  | cons => exact List.cons_ne_nil _ _

/-- A hyphenated text has nothing but digits and hyphens. -/
theorem isHexDigit_or_hyphen (groups : Groups lengths s) :
    ∀ c ∈ s, isHexDigit c = true ∨ c = '-' := by
  induction groups with
  | last hex => exact fun c mem => .inl (List.all_eq_true.mp hex c mem)
  | cons hex _ ih =>
    intro c mem
    rcases List.mem_append.mp mem with here | later
    · exact .inl (List.all_eq_true.mp hex c here)
    · rcases List.mem_cons.mp later with hyphen | later
      · exact .inr hyphen
      · exact ih c later

theorem isHexDigit_withoutHyphens (groups : Groups lengths s) :
    ∀ c ∈ withoutHyphens s, isHexDigit c = true := by
  intro c mem
  obtain ⟨found, notHyphen⟩ := List.mem_filter.mp mem
  exact (groups.isHexDigit_or_hyphen c found).resolve_right (bne_iff_ne.mp notHyphen)

/-- Without its hyphens it has as many digits as its groups together. -/
theorem length_withoutHyphens (groups : Groups lengths s) :
    (withoutHyphens s).length = lengths.sum := by
  induction groups with
  | last hex => rw [withoutHyphens_of_isHexDigit (List.all_eq_true.mp hex), List.sum_singleton]
  | cons hex _ ih =>
    rw [withoutHyphens_append_cons, List.length_append, ih,
      withoutHyphens_of_isHexDigit (List.all_eq_true.mp hex), List.sum_cons]

/-- The digits of a text in groups, put into groups again, are the text. -/
theorem grouped_withoutHyphens (groups : Groups lengths s) :
    grouped lengths (withoutHyphens s) = s := by
  induction groups with
  | last hex =>
    rw [withoutHyphens_of_isHexDigit (List.all_eq_true.mp hex), grouped, List.take_length]
  | cons hex rest ih =>
    rw [withoutHyphens_append_cons, withoutHyphens_of_isHexDigit (List.all_eq_true.mp hex),
      grouped_cons rest.lengths_ne_nil, List.take_left, List.drop_left, ih]

/-- A text whose lower case is in groups is in the same groups. -/
theorem of_map_toLower {t : List Char} (groups : Groups lengths t)
    (same : s.map Char.toLower = t) : Groups lengths s := by
  induction groups generalizing s with
  | last hex =>
    subst same
    rw [List.length_map]
    exact .last (isHexDigit_of_map_toLower hex)
  | cons hex _ ih =>
    obtain ⟨first, others, rfl, here, later⟩ := List.map_eq_append_iff.mp same
    obtain ⟨hyphen, rest, rfl, isHyphen, last⟩ := List.map_eq_cons_iff.mp later
    subst here
    rw [List.length_map, eq_hyphen_of_toLower isHyphen]
    exact .cons (isHexDigit_of_map_toLower hex) (ih last)

end Groups

/-- Digits that are put into groups are in groups. -/
theorem groups_grouped {lengths : List Nat} (some : lengths ≠ []) {s : List Char}
    (hex : ∀ c ∈ s, isHexDigit c = true) (total : s.length = lengths.sum) :
    Groups lengths (grouped lengths s) := by
  fun_induction grouped lengths s with
  | case1 s => exact absurd rfl some
  | case2 n s =>
    rw [List.sum_singleton] at total
    rw [← total, List.take_length]
    exact .last (List.all_eq_true.mpr hex)
  | case3 n ns s more ih =>
    rw [List.sum_cons] at total
    have rest := ih more (fun c mem => hex c (List.mem_of_mem_drop mem)) (by
      rw [List.length_drop]
      omega)
    -- The first group takes its own length, because there are digits enough for all groups.
    have first : (s.take n).all isHexDigit = true :=
      List.all_eq_true.mpr fun c mem => hex c (List.mem_of_mem_take mem)
    have whole := Groups.cons first rest
    rwa [List.length_take, Nat.min_eq_left (by omega)] at whole

/-- Hyphens that are put in can be taken out again. -/
theorem withoutHyphens_grouped {lengths : List Nat} (some : lengths ≠ []) {s : List Char}
    (hex : ∀ c ∈ s, isHexDigit c = true) (total : s.length = lengths.sum) :
    withoutHyphens (grouped lengths s) = s := by
  fun_induction grouped lengths s with
  | case1 s => exact absurd rfl some
  | case2 n s =>
    rw [List.sum_singleton] at total
    rw [← total, List.take_length, withoutHyphens_of_isHexDigit hex]
  | case3 n ns s more ih =>
    rw [List.sum_cons] at total
    have rest := ih more (fun c mem => hex c (List.mem_of_mem_drop mem)) (by
      rw [List.length_drop]
      omega)
    rw [withoutHyphens_append_cons, rest, withoutHyphens_of_isHexDigit, List.take_append_drop]
    exact fun c mem => hex c (List.mem_of_mem_take mem)

/-! ### Canonical texts -/

theorem isHexDigit_hexDigits (width n : Nat) : ∀ c ∈ hexDigits width n, isHexDigit c = true := by
  induction width generalizing n with
  | zero => exact nofun
  | succ width ih =>
    intro c mem
    rcases List.mem_append.mp mem with earlier | last
    · exact ih (n / 16) c earlier
    · rw [List.mem_singleton.mp last]
      exact isHexDigit_hexDigit _ (Nat.mod_lt n (by decide))

/-- The canonical text is hyphenated. -/
theorem isHyphenated_text (u : Uuid) : IsHyphenated u.text :=
  groups_grouped (List.cons_ne_nil _ _) (isHexDigit_hexDigits 32 u.value) (length_hexDigits 32 _)

/-- The canonical text has the 32 digits of the number. -/
theorem withoutHyphens_text (u : Uuid) : withoutHyphens u.text = hexDigits 32 u.value :=
  withoutHyphens_grouped (List.cons_ne_nil _ _) (isHexDigit_hexDigits 32 u.value)
    (length_hexDigits 32 _)

/-- A number has one canonical text. -/
theorem text_injective {u v : Uuid} (same : u.text = v.text) : u = v := by
  obtain ⟨n, small⟩ := u
  obtain ⟨m, small'⟩ := v
  have digits := congrArg withoutHyphens same
  rw [withoutHyphens_text, withoutHyphens_text] at digits
  have count : uuidCount = Nat.pow 16 32 := by decide
  rw [count] at small small'
  cases hexDigits_injective small small' digits
  rfl

/-- A text is canonical up to the case of ASCII letters exactly when it is the canonical text in
lower case, also if all scripts are put into lower case. -/
theorem lower_eq_text_iff (u : Uuid) (s : List Char) :
    lower s = u.text ↔ s.map Char.toLower = u.text := by
  refine lower_eq_iff fun c mem => ?_
  rcases u.isHyphenated_text.isHexDigit_or_hyphen c mem with hex | rfl
  · refine ⟨isAscii_of_isHexDigit hex, ?_⟩
    rintro rfl
    cases hex
  · decide

/-- Canonical texts are in lower case. -/
theorem lower_text (u : Uuid) : lower u.text = u.text := by
  refine (u.lower_eq_text_iff u.text).mpr ?_
  rw [text, map_toLower_grouped, map_toLower_hexDigits]

/-! ### Reading -/

/-- Of a hyphenated text the digits are read. -/
theorem numeralOf_of_isHyphenated {s : List Char} (hyphenated : IsHyphenated s) :
    numeralOf s = withoutHyphens s := by
  have member := hyphenated.isHexDigit_or_hyphen
  have noColon : ':' ∉ s := by
    intro mem
    rcases member ':' mem with hex | hyphen
    · cases hex
    · cases hyphen
  have noBraces : ∀ c ∈ s, (c == '\x7b' || c == '\x7d') = false := by
    intro c mem
    rcases member c mem with hex | rfl
    · rw [Bool.or_eq_false_iff, beq_eq_false_iff_ne, beq_eq_false_iff_ne]
      constructor
      · rintro rfl
        cases hex
      · rintro rfl
        cases hex
    · rfl
  unfold numeralOf
  rw [removeAll_eq_self (c := ':') (by decide) noColon,
    removeAll_eq_self (c := ':') (by decide) noColon]
  exact congrArg withoutHyphens (trimBy_eq_self noBraces)

/-- A hyphenated text is read as the number whose canonical text it is in lower case. -/
theorem read_of_isHyphenated {s : List Char} (hyphenated : IsHyphenated s) :
    ∃ u, read s = .ok u ∧ u.text = s.map Char.toLower := by
  have hex := hyphenated.isHexDigit_withoutHyphens
  have length : (withoutHyphens s).length = 32 := hyphenated.length_withoutHyphens
  have notNil : withoutHyphens s ≠ [] := by
    intro nil
    rw [nil] at length
    cases length
  have small : ofDigits 16 ((withoutHyphens s).map hexValue) < uuidCount := by
    have bound := ofDigits_hexValue_lt hex
    rwa [length] at bound
  refine ⟨⟨ofDigits 16 ((withoutHyphens s).map hexValue), small⟩, ?_, ?_⟩
  · have inRange : (0 : Int) ≤ (ofDigits 16 ((withoutHyphens s).map hexValue) : Nat) ∧
        ((ofDigits 16 ((withoutHyphens s).map hexValue) : Nat) : Int).toNat < uuidCount :=
      ⟨Int.natCast_nonneg _, small⟩
    simp only [read, numeralOf_of_isHyphenated hyphenated, length,
      readInBase?_of_isHexDigit hex notNil, dif_pos inRange]
    rfl
  · have digits := hexDigits_ofDigits_hexValue hex
    rw [length] at digits
    rw [text, digits, ← map_toLower_grouped]
    exact congrArg (List.map Char.toLower) hyphenated.grouped_withoutHyphens

/-- The canonical text of what is read is the text in lower case exactly for the hyphenated
texts. -/
theorem isHyphenated_iff {s : List Char} :
    IsHyphenated s ↔ ∃ u, read s = .ok u ∧ u.text = lower s := by
  constructor
  · intro hyphenated
    obtain ⟨u, read, text⟩ := read_of_isHyphenated hyphenated
    exact ⟨u, read, ((u.lower_eq_text_iff s).mpr text.symm).symm⟩
  · rintro ⟨u, -, text⟩
    exact u.isHyphenated_text.of_map_toLower ((u.lower_eq_text_iff s).mp text.symm)

end Uuid

end AccessNotices
