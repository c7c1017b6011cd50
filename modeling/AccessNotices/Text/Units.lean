/-!
UTF-16 code units: a character above U+FFFF is two units, a high surrogate and a low one; any other
character is its own unit. Main statement: the units of a character join to that character, whatever
follows them (`joinUnits_codeUnits_append`).
-/

namespace AccessNotices.Text

def codeUnits (c : Char) : List Nat :=
  let n := c.toNat
  if n < 0x10000 then [n]
  else [0xD800 + (n - 0x10000) / 0x400, 0xDC00 + (n - 0x10000) % 0x400]

/-- The characters of a list of codes: two surrogates make one character, and a surrogate without
its partner makes none. -/
def joinUnits : List Nat → Option (List Char)
  | [] => some []
  | n :: rest =>
    if 0xD800 ≤ n ∧ n < 0xDC00 then
      match rest with
      | m :: rest =>
        if 0xDC00 ≤ m ∧ m < 0xE000 then
          (joinUnits rest).map (Char.ofNat (0x10000 + (n - 0xD800) * 0x400 + (m - 0xDC00)) :: ·)
        else none
      | [] => none
    else if 0xDC00 ≤ n ∧ n < 0xE000 then none
    else (joinUnits rest).map (Char.ofNat n :: ·)

/-- Codes are joined to some character. -/
theorem joinUnits_cons_ne_nil (n : Nat) (rest : List Nat) : joinUnits (n :: rest) ≠ some [] := by
  intro joined
  unfold joinUnits at joined
  split at joined
  · cases rest with
    | nil => cases joined
    | cons m rest =>
      dsimp only at joined
      split at joined
      · obtain ⟨chars, -, same⟩ := Option.map_eq_some_iff.mp joined
        cases same
      · cases joined
  · split at joined
    · cases joined
    · obtain ⟨chars, -, same⟩ := Option.map_eq_some_iff.mp joined
      cases same

/-- Two codes that are joined to one character are the halves of a character above U+FFFF. -/
theorem le_toNat_of_joinUnits {n m : Nat} {c : Char} (joined : joinUnits [n, m] = some [c]) :
    0x10000 ≤ c.toNat := by
  unfold joinUnits at joined
  split at joined
  case isTrue high =>
    dsimp only at joined
    split at joined
    case isTrue low =>
      rw [joinUnits, Option.map_some, Option.some.injEq, List.cons.injEq] at joined
      obtain ⟨rfl, -⟩ := joined
      generalize whole : 0x10000 + (n - 0xD800) * 0x400 + (m - 0xDC00) = k
      have code : (Char.ofNat k).toNat = k := by
        rw [Char.ofNat, dif_pos (.inr ⟨by omega, by omega⟩)]
        rfl
      omega
    case isFalse => cases joined
  case isFalse =>
    split at joined
    · cases joined
    · obtain ⟨chars, rest, same⟩ := Option.map_eq_some_iff.mp joined
      cases same
      exact absurd rest (joinUnits_cons_ne_nil m [])

theorem joinUnits_codeUnits_append (c : Char) (rest : List Nat) :
    joinUnits (codeUnits c ++ rest) = (joinUnits rest).map (c :: ·) := by
  have valid := c.valid
  have bounds : c.toNat < 0xD800 ∨ (0xDFFF < c.toNat ∧ c.toNat < 0x110000) := valid
  have same : Char.ofNat c.toNat = c := Char.ofNat_toNat c
  by_cases small : c.toNat < 0x10000
  · have noHigh : ¬ (0xD800 ≤ c.toNat ∧ c.toNat < 0xDC00) := by omega
    have noLow : ¬ (0xDC00 ≤ c.toNat ∧ c.toNat < 0xE000) := by omega
    simp only [codeUnits, small, if_true, List.cons_append, List.nil_append]
    rw [joinUnits.eq_def]
    simp only [noHigh, if_false, noLow, same]
  · have high : 0xD800 ≤ 0xD800 + (c.toNat - 0x10000) / 0x400 ∧
        0xD800 + (c.toNat - 0x10000) / 0x400 < 0xDC00 := by omega
    have low : 0xDC00 ≤ 0xDC00 + (c.toNat - 0x10000) % 0x400 ∧
        0xDC00 + (c.toNat - 0x10000) % 0x400 < 0xE000 := by omega
    have whole : 0x10000 + (0xD800 + (c.toNat - 0x10000) / 0x400 - 0xD800) * 0x400 +
        (0xDC00 + (c.toNat - 0x10000) % 0x400 - 0xDC00) = c.toNat := by omega
    simp only [codeUnits, small, if_false, List.cons_append, List.nil_append]
    rw [joinUnits]
    simp only [high, and_self, if_true, low, whole, same]

end AccessNotices.Text
