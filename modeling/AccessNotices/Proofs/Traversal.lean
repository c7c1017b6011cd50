import Mathlib.Data.List.Forall2
/-!
Lists that are gone through with a function that can fail.

A traversal gives what the function gives for each element, in order (`mapM_eq_ok_iff`), and it
gives something exactly when the function does for each (`exists_mapM_iff`).
-/

namespace AccessNotices

variable {ε α β : Type}

theorem map_eq_ok_iff {x : Except ε α} {f : α → β} {b : β} :
    x.map f = .ok b ↔ ∃ a, x = .ok a ∧ f a = b := by
  cases x <;> simp [Except.map]

theorem map_eq_error_iff {x : Except ε α} {f : α → β} {e : ε} :
    x.map f = .error e ↔ x = .error e := by
  cases x <;> simp [Except.map]

theorem bind_eq_ok_iff {x : Except ε α} {next : α → Except ε β} {b : β} :
    (x >>= next) = .ok b ↔ ∃ a, x = .ok a ∧ next a = .ok b := by
  cases x <;> simp [bind, Except.bind]

theorem mapError_eq_error_iff {δ : Type} {x : Except ε α} {f : ε → δ} {e : δ} :
    x.mapError f = .error e ↔ ∃ e', x = .error e' ∧ f e' = e := by
  cases x <;> simp [Except.mapError]

variable {f : α → Except ε β} {l : List α} {results : List β}

theorem mapM_eq_ok_iff :
    l.mapM f = .ok results ↔ List.Forall₂ (fun a b => f a = .ok b) l results := by
  induction l generalizing results with
  | nil =>
    rw [List.forall₂_nil_left_iff, List.mapM_nil]
    exact ⟨fun same => (Except.ok.inj same).symm, fun same => same ▸ rfl⟩
  | cons a rest ih =>
    rw [List.forall₂_cons_left_iff, List.mapM_cons]
    simp only [bind_eq_ok_iff]
    constructor
    · rintro ⟨b, first, bs, others, whole⟩
      cases whole
      exact ⟨b, bs, first, ih.mp others, rfl⟩
    · rintro ⟨b, bs, first, others, rfl⟩
      exact ⟨b, first, bs, ih.mpr others, rfl⟩

/-- Each result is that of an element. -/
theorem exists_of_mem_mapM (whole : l.mapM f = .ok results) {b : β} (mem : b ∈ results) :
    ∃ a ∈ l, f a = .ok b := by
  have each := mapM_eq_ok_iff.mp whole
  clear whole
  induction each with
  | nil => cases mem
  | @cons a b' l results first others ih =>
    rcases List.mem_cons.mp mem with rfl | later
    · exact ⟨a, List.mem_cons_self, first⟩
    · obtain ⟨a', mem, given⟩ := ih later
      exact ⟨a', List.mem_cons_of_mem a mem, given⟩

/-- What the function keeps of each element, a traversal keeps of all. -/
theorem map_eq_of_mapM {γ : Type} {g : β → γ} {h : α → γ} (kept : ∀ a b, f a = .ok b → g b = h a)
    (whole : l.mapM f = .ok results) : results.map g = l.map h := by
  have each := mapM_eq_ok_iff.mp whole
  clear whole
  induction each with
  | nil => rfl
  | cons first _ ih => rw [List.map_cons, List.map_cons, kept _ _ first, ih]

/-- There are results exactly when there is one for each element. -/
theorem exists_mapM_iff : (∃ results, l.mapM f = .ok results) ↔ ∀ a ∈ l, ∃ b, f a = .ok b := by
  simp only [mapM_eq_ok_iff]
  constructor
  · rintro ⟨results, each⟩
    induction each with
    | nil => exact nofun
    | cons first _ ih => exact List.forall_mem_cons.mpr ⟨⟨_, first⟩, ih⟩
  · intro each
    induction l with
    | nil => exact ⟨[], .nil⟩
    | cons a rest ih =>
      obtain ⟨⟨b, first⟩, others⟩ := List.forall_mem_cons.mp each
      obtain ⟨bs, given⟩ := ih others
      exact ⟨b :: bs, .cons first given⟩

theorem filterMap_eq_of_mapM {g : α → Option β} (whole : l.mapM g = some results) :
    l.filterMap g = results := by
  induction l generalizing results with
  | nil =>
    cases whole
    rfl
  | cons a rest ih =>
    rw [List.mapM_cons] at whole
    obtain ⟨b, first, others⟩ := Option.bind_eq_some_iff.mp whole
    obtain ⟨bs, given, same⟩ := Option.bind_eq_some_iff.mp others
    cases same
    rw [List.filterMap_cons, first, ih given]

/-- The same of a function that gives nothing for some elements. -/
theorem exists_mapM_eq_some_iff {g : α → Option β} :
    (∃ results, l.mapM g = some results) ↔ ∀ a ∈ l, ∃ b, g a = some b := by
  induction l with
  | nil => simp
  | cons a rest ih =>
    rw [List.forall_mem_cons, ← ih, List.mapM_cons]
    cases g a with
    | none => simp
    | some b => cases rest.mapM g <;> simp

end AccessNotices
