/-!
Mappings that remember the order in which their keys came.

A key that is given again keeps its first place and takes the last value. The view of a mapping is
its list of entries; main statements say what each operation does to the keys
(`keys_insert`, `keys_filterKeys`) and to look-ups (`get?_insert`).
-/

namespace AccessNotices

universe u v

/-- Entries in order, with no key twice. -/
structure OrderedMap (κ : Type u) (α : Type v) where
  entries : List (κ × α)
  nodup : (entries.map Prod.fst).Nodup

namespace OrderedMap

variable {κ : Type u} {α : Type v} [DecidableEq κ]

/-- The entries with the value of a key replaced in its place, or with a new entry at the end. -/
def putEntry (k : κ) (a : α) : List (κ × α) → List (κ × α)
  | [] => [(k, a)]
  | (k', a') :: rest => if k' = k then (k', a) :: rest else (k', a') :: putEntry k a rest

theorem keys_putEntry (k : κ) (a : α) (l : List (κ × α)) :
    (putEntry k a l).map Prod.fst =
      if k ∈ l.map Prod.fst then l.map Prod.fst else l.map Prod.fst ++ [k] := by
  induction l with
  | nil => rfl
  | cons e rest ih =>
    obtain ⟨k', a'⟩ := e
    by_cases h : k' = k
    · simp [putEntry, h]
    · have h' : ¬ k = k' := fun he => h he.symm
      by_cases hm : k ∈ rest.map Prod.fst
      · simp only [putEntry, h, if_false, List.map_cons, ih, hm, if_true, List.mem_cons, or_true]
      · simp only [putEntry, h, if_false, List.map_cons, ih, hm, List.mem_cons, h', or_self,
          List.cons_append]

theorem nodup_putEntry (k : κ) (a : α) (l : List (κ × α)) (h : (l.map Prod.fst).Nodup) :
    ((putEntry k a l).map Prod.fst).Nodup := by
  rw [keys_putEntry]
  split
  · exact h
  · rename_i hm
    rw [List.nodup_append]
    refine ⟨h, by simp, ?_⟩
    intro x hx y hy
    simp only [List.mem_singleton] at hy
    subst hy
    exact fun he => hm (he ▸ hx)

/-- The mapping without entries. -/
def empty : OrderedMap κ α := ⟨[], List.nodup_nil⟩

instance : EmptyCollection (OrderedMap κ α) := ⟨empty⟩

instance : Inhabited (OrderedMap κ α) := ⟨empty⟩

def keys (m : OrderedMap κ α) : List κ := m.entries.map Prod.fst

/-- The value of a key. -/
def get? (m : OrderedMap κ α) (k : κ) : Option α := m.entries.lookup k

/-- The mapping with a value for a key: in the key's place if it has one, else at the end. -/
def insert (m : OrderedMap κ α) (k : κ) (a : α) : OrderedMap κ α :=
  ⟨putEntry k a m.entries, nodup_putEntry k a m.entries m.nodup⟩

def filterKeys (m : OrderedMap κ α) (p : κ → Bool) : OrderedMap κ α :=
  ⟨m.entries.filter fun e => p e.1,
    List.Nodup.sublist (List.filter_sublist.map Prod.fst) m.nodup⟩

/-- The mapping of a list of entries, of which the later ones win. -/
def ofList (l : List (κ × α)) : OrderedMap κ α :=
  l.foldl (fun m e => m.insert e.1 e.2) empty

@[simp] theorem keys_insert (m : OrderedMap κ α) (k : κ) (a : α) :
    (m.insert k a).keys = if k ∈ m.keys then m.keys else m.keys ++ [k] :=
  keys_putEntry k a m.entries

omit [DecidableEq κ] in
@[simp] theorem keys_filterKeys (m : OrderedMap κ α) (p : κ → Bool) :
    (m.filterKeys p).keys = m.keys.filter p := by
  simp only [keys, filterKeys, List.filter_map]
  rfl

theorem lookup_putEntry (k k' : κ) (a : α) (l : List (κ × α)) :
    (putEntry k a l).lookup k' = if k' = k then some a else l.lookup k' := by
  induction l with
  | nil =>
    by_cases h : k' = k
    · simp [putEntry, h]
    · have : (k' == k) = false := by simpa using h
      simp [putEntry, List.lookup_cons, h, this]
  | cons e rest ih =>
    obtain ⟨k₁, a₁⟩ := e
    by_cases h₁ : k₁ = k
    · subst h₁
      by_cases h : k' = k₁
      · simp [putEntry, h]
      · have : (k' == k₁) = false := by simpa using h
        simp [putEntry, List.lookup_cons, h, this]
    · by_cases h₂ : k' = k₁
      · subst h₂
        simp [putEntry, h₁]
      · have : (k' == k₁) = false := by simpa using h₂
        simp [putEntry, List.lookup_cons, h₁, this, ih]

@[simp] theorem get?_insert (m : OrderedMap κ α) (k k' : κ) (a : α) :
    (m.insert k a).get? k' = if k' = k then some a else m.get? k' :=
  lookup_putEntry k k' a m.entries

omit [DecidableEq κ] in
/-- Mappings with the same entries are the same. -/
theorem ext_entries {m n : OrderedMap κ α} (h : m.entries = n.entries) : m = n := by
  cases m; cases n; cases h; rfl

end OrderedMap

end AccessNotices
