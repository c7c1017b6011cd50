/-!
Finding and removing parts of texts: the first and the last occurrence of a piece, and all of them.

Main statements: cutting at the first or the last occurrence loses nothing (`cutFirst?_eq_some`,
`cutLast?_eq_some`), and what follows a last occurrence holds no further one
(`not_mem_of_cutLast?`).
-/

namespace AccessNotices.Text

variable {α : Type} [BEq α]

/-- The parts before and after the first occurrence of a piece. -/
def cutFirst? (piece : List α) : List α → Option (List α × List α)
  | [] => if piece.isEmpty then some ([], []) else none
  | c :: rest =>
    if piece.isPrefixOf (c :: rest) then some ([], (c :: rest).drop piece.length)
    else (cutFirst? piece rest).map fun (before, after) => (c :: before, after)

/-- The parts before and after the last occurrence of a character. -/
def cutLast? (mark : α) : List α → Option (List α × List α)
  | [] => none
  | c :: rest =>
    match cutLast? mark rest with
    | some (before, after) => some (c :: before, after)
    | none => if c == mark then some ([], rest) else none

def occurs (piece s : List α) : Bool :=
  (cutFirst? piece s).isSome

/-- The text without the occurrences of a piece, taken from the left and not overlapping. `skip`
characters of an occurrence are still to be dropped. -/
def removeAllFrom (piece : List α) : Nat → List α → List α
  | _, [] => []
  | skip + 1, _ :: rest => removeAllFrom piece skip rest
  | 0, c :: rest =>
    if piece.isPrefixOf (c :: rest) then removeAllFrom piece (piece.length - 1) rest
    else c :: removeAllFrom piece 0 rest

/-- The text without the occurrences of a piece. -/
def removeAll (piece s : List α) : List α :=
  removeAllFrom piece 0 s

section Laws
variable [LawfulBEq α]

theorem cutFirst?_eq_some {piece s before after : List α}
    (h : cutFirst? piece s = some (before, after)) : s = before ++ piece ++ after := by
  induction s generalizing before with
  | nil =>
    simp only [cutFirst?] at h
    split at h
    · rename_i hp
      simp only [List.isEmpty_iff] at hp
      simp_all
    · simp at h
  | cons c rest ih =>
    simp only [cutFirst?] at h
    split at h
    · rename_i hp
      simp only [Option.some.injEq, Prod.mk.injEq] at h
      obtain ⟨rfl, rfl⟩ := h
      obtain ⟨t, ht⟩ := List.isPrefixOf_iff_prefix.1 hp
      rw [← ht]
      simp
    · obtain ⟨⟨b, a⟩, hb, he⟩ := Option.map_eq_some_iff.1 h
      simp only [Prod.mk.injEq] at he
      obtain ⟨rfl, rfl⟩ := he
      simp [ih hb]

theorem cutLast?_eq_some {mark : α} {s before after : List α}
    (h : cutLast? mark s = some (before, after)) : s = before ++ mark :: after := by
  induction s generalizing before with
  | nil => simp [cutLast?] at h
  | cons c rest ih =>
    simp only [cutLast?] at h
    split at h
    · rename_i b a hb
      simp only [Option.some.injEq, Prod.mk.injEq] at h
      obtain ⟨rfl, rfl⟩ := h
      simp [ih hb]
    · split at h
      · rename_i hc
        simp only [Option.some.injEq, Prod.mk.injEq] at h
        obtain ⟨rfl, rfl⟩ := h
        simp [eq_of_beq hc]
      · simp at h

/-- The part after the last occurrence holds none. -/
theorem not_mem_of_cutLast? {mark : α} {s before after : List α}
    (h : cutLast? mark s = some (before, after)) : mark ∉ after := by
  have absent : ∀ t : List α, cutLast? mark t = none → mark ∉ t := by
    intro t
    induction t with
    | nil => simp
    | cons c rest ih =>
      intro ht
      simp only [cutLast?] at ht
      split at ht
      · simp at ht
      · rename_i hn
        split at ht
        · simp at ht
        · rename_i hc
          have := ih hn
          simp only [List.mem_cons, not_or]
          exact ⟨fun he => hc (by simp [he]), this⟩
  induction s generalizing before with
  | nil => simp [cutLast?] at h
  | cons c rest ih =>
    simp only [cutLast?] at h
    split at h
    · rename_i b a hb
      simp only [Option.some.injEq, Prod.mk.injEq] at h
      obtain ⟨rfl, rfl⟩ := h
      exact ih hb
    · rename_i hn
      split at h
      · simp only [Option.some.injEq, Prod.mk.injEq] at h
        obtain ⟨-, rfl⟩ := h
        exact absent _ hn
      · simp at h

end Laws

end AccessNotices.Text
