import AccessNotices.OrderedMap
import Mathlib.Data.List.Basic
/-!
Look-ups in mappings that remember their order.

A key has at most one entry, so a look-up, membership among the entries and a scan for the key all
say the same (`mem_entries_iff`, `filter_key`), and a mapping is known from its keys and its
look-ups (`ext_get?`). Keys that are put into a mapping come behind those that it has
(`keys_foldl_insert`); a mapping made of entries whose keys are distinct has exactly those entries
(`entries_ofList`).
-/

namespace AccessNotices.OrderedMap

universe u v

variable {κ : Type u} {α : Type v} [DecidableEq κ]

/-! ### Entries by their keys -/

theorem lookup_eq_none_of_notMem {k : κ} {l : List (κ × α)} (missing : k ∉ l.map Prod.fst) :
    l.lookup k = none := by
  induction l with
  | nil => rfl
  | cons e rest ih =>
    rw [List.map_cons, List.mem_cons, not_or] at missing
    have other : (k == e.1) = false := beq_false_of_ne missing.1
    rw [List.lookup_cons, other]
    exact ih missing.2

/-- In entries with distinct keys, those with a given key are what a look-up gives. -/
theorem filter_lookup (k : κ) {l : List (κ × α)} (distinct : (l.map Prod.fst).Nodup) :
    l.filter (fun e => e.1 == k) = ((l.lookup k).map (k, ·)).toList := by
  induction l with
  | nil => rfl
  | cons e rest ih =>
    obtain ⟨k', a⟩ := e
    rw [List.map_cons, List.nodup_cons] at distinct
    have later := ih distinct.2
    by_cases same : k' = k
    · subst same
      rw [lookup_eq_none_of_notMem distinct.1] at later
      rw [List.filter_cons, if_pos (beq_self_eq_true k'), later, List.lookup_cons,
        beq_self_eq_true k']
      rfl
    · have other : (k == k') = false := beq_false_of_ne fun h => same h.symm
      rw [List.filter_cons, if_neg (by simpa using same), later, List.lookup_cons, other]

/-- A scan for a key finds what a look-up finds. -/
theorem filter_key (m : OrderedMap κ α) (k : κ) :
    m.entries.filter (fun e => e.1 == k) = ((m.get? k).map (k, ·)).toList :=
  filter_lookup k m.nodup

/-- An entry is there exactly when its key is looked up with its value. -/
theorem mem_entries_iff (m : OrderedMap κ α) (k : κ) (a : α) :
    (k, a) ∈ m.entries ↔ m.get? k = some a := by
  have scan : (k, a) ∈ m.entries ↔ (k, a) ∈ m.entries.filter fun e => e.1 == k := by
    rw [List.mem_filter, beq_self_eq_true, and_iff_left rfl]
  rw [scan, filter_key, Option.mem_toList, Option.map_eq_some_iff]
  constructor
  · rintro ⟨a', found, same⟩
    cases same
    exact found
  · intro found
    exact ⟨a, found, rfl⟩

theorem mem_keys_iff (m : OrderedMap κ α) (k : κ) : k ∈ m.keys ↔ ∃ a, m.get? k = some a := by
  rw [keys, List.mem_map]
  constructor
  · rintro ⟨⟨k', a⟩, mem, rfl⟩
    exact ⟨a, (m.mem_entries_iff k' a).mp mem⟩
  · rintro ⟨a, found⟩
    exact ⟨(k, a), (m.mem_entries_iff k a).mpr found, rfl⟩

theorem get?_eq_none_iff (m : OrderedMap κ α) (k : κ) : m.get? k = none ↔ k ∉ m.keys := by
  rw [mem_keys_iff]
  cases m.get? k <;> simp

/-- Entries with distinct keys are what their keys lead to. -/
theorem entries_eq_filterMap {l : List (κ × α)} (distinct : (l.map Prod.fst).Nodup) :
    l = (l.map Prod.fst).filterMap fun k => (l.lookup k).map (k, ·) := by
  induction l with
  | nil => rfl
  | cons e rest ih =>
    obtain ⟨k, a⟩ := e
    rw [List.map_cons, List.nodup_cons] at distinct
    have later : (rest.map Prod.fst).filterMap (fun k' => (((k, a) :: rest).lookup k').map (k', ·)) =
        (rest.map Prod.fst).filterMap fun k' => (rest.lookup k').map (k', ·) := by
      refine List.filterMap_congr fun k' mem => ?_
      have other : (k' == k) = false := beq_false_of_ne fun same => distinct.1 (same ▸ mem)
      rw [List.lookup_cons, other]
    rw [List.map_cons, List.filterMap_cons, later, ← ih distinct.2, List.lookup_cons,
      beq_self_eq_true k]
    rfl

/-- Mappings with the same keys in the same order and the same look-ups are the same. -/
theorem ext_get? {m n : OrderedMap κ α} (sameKeys : m.keys = n.keys)
    (sameLookups : ∀ k, m.get? k = n.get? k) : m = n := by
  apply ext_entries
  have lookups : (fun k => (m.entries.lookup k).map (k, ·)) =
      fun k => (n.entries.lookup k).map (k, ·) :=
    funext fun k => congrArg (Option.map (k, ·)) (sameLookups k)
  rw [entries_eq_filterMap m.nodup, entries_eq_filterMap n.nodup, lookups]
  exact congrArg (List.filterMap _) sameKeys

/-- To give a key the value that it has changes nothing. -/
theorem insert_eq_self {m : OrderedMap κ α} {k : κ} {a : α} (found : m.get? k = some a) :
    m.insert k a = m := by
  have mem : k ∈ m.keys := (m.mem_keys_iff k).mpr ⟨a, found⟩
  apply ext_get?
  · rw [keys_insert, if_pos mem]
  · intro k'
    rw [get?_insert]
    split
    case isTrue same => rw [same, found]
    case isFalse => rfl

/-- A key that is given twice takes the last value. -/
theorem insert_insert (m : OrderedMap κ α) (k : κ) (a b : α) :
    (m.insert k a).insert k b = m.insert k b := by
  have mem : k ∈ (m.insert k a).keys :=
    ((m.insert k a).mem_keys_iff k).mpr ⟨a, by rw [get?_insert, if_pos rfl]⟩
  apply ext_get?
  · rw [keys_insert (m.insert k a), if_pos mem, keys_insert, keys_insert]
  · intro k'
    simp only [get?_insert]
    by_cases same : k' = k
    · rw [if_pos same, if_pos same]
    · rw [if_neg same, if_neg same, if_neg same]

/-! ### Look-ups after a filter -/

theorem get?_filterKeys (m : OrderedMap κ α) (p : κ → Bool) (k : κ) :
    (m.filterKeys p).get? k = if p k then m.get? k else none := by
  refine Option.ext fun a => ?_
  rw [← mem_entries_iff, filterKeys, List.mem_filter, mem_entries_iff]
  cases kept : p k <;> simp

omit [DecidableEq κ] in
/-- If all keys pass, nothing is taken away. -/
theorem filterKeys_eq_self {m : OrderedMap κ α} {p : κ → Bool} (all : ∀ k ∈ m.keys, p k = true) :
    m.filterKeys p = m := by
  apply ext_entries
  refine List.filter_eq_self.mpr fun e mem => all e.1 ?_
  exact List.mem_map_of_mem mem

/-! ### Mappings from lists -/

/-- A new key comes to the end. -/
theorem putEntry_of_notMem {k : κ} (a : α) {l : List (κ × α)} (new : k ∉ l.map Prod.fst) :
    putEntry k a l = l ++ [(k, a)] := by
  induction l with
  | nil => rfl
  | cons e rest ih =>
    obtain ⟨k', a'⟩ := e
    rw [List.map_cons, List.mem_cons, not_or] at new
    rw [putEntry, if_neg fun h => new.1 h.symm, ih new.2]
    rfl

/-- Entries with new keys come behind those that are there. -/
theorem entries_foldl_insert (l : List (κ × α)) (m : OrderedMap κ α)
    (distinct : ((m.entries ++ l).map Prod.fst).Nodup) :
    (l.foldl (fun m e => m.insert e.1 e.2) m).entries = m.entries ++ l := by
  induction l generalizing m with
  | nil => rw [List.append_nil, List.foldl_nil]
  | cons e rest ih =>
    have parts : ((m.entries ++ [e] ++ rest).map Prod.fst).Nodup := by
      rwa [List.append_assoc]
    have new : e.1 ∉ m.entries.map Prod.fst := by
      intro mem
      rw [List.map_append, List.nodup_append] at distinct
      exact distinct.2.2 e.1 mem e.1 List.mem_cons_self rfl
    have first : (m.insert e.1 e.2).entries = m.entries ++ [e] := putEntry_of_notMem e.2 new
    rw [List.foldl_cons, ih (m.insert e.1 e.2) (by rwa [first]), first, List.append_assoc]
    rfl

/-- Keys that are put into a mapping one after another come behind those that it has; a key that it
has already stays in its place. -/
theorem keys_foldl_insert (l : List (κ × α)) (m : OrderedMap κ α)
    (distinct : (l.map Prod.fst).Nodup) :
    (l.foldl (fun m e => m.insert e.1 e.2) m).keys =
      m.keys ++ (l.map Prod.fst).filter fun k => k ∉ m.keys := by
  induction l generalizing m with
  | nil => simp
  | cons e rest ih =>
    rw [List.map_cons, List.nodup_cons] at distinct
    rw [List.foldl_cons, ih _ distinct.2, keys_insert, List.map_cons, List.filter_cons]
    by_cases mem : e.1 ∈ m.keys
    · simp [mem]
    · -- Behind the new key, the others are looked for among the same keys as before.
      have others : (rest.map Prod.fst).filter (fun k => k ∉ m.keys ++ [e.1]) =
          (rest.map Prod.fst).filter fun k => k ∉ m.keys := by
        refine List.filter_congr fun k later => ?_
        have different : k ≠ e.1 := fun same => distinct.1 (same ▸ later)
        simp [different]
      rw [if_neg mem, others]
      simp [mem]

/-- Nothing comes in but the new entry. -/
theorem mem_putEntry {k : κ} {a : α} {l : List (κ × α)} {e : κ × α} (mem : e ∈ putEntry k a l) :
    e = (k, a) ∨ e ∈ l := by
  induction l with
  | nil => exact .inl (List.mem_singleton.mp mem)
  | cons first rest ih =>
    obtain ⟨k', a'⟩ := first
    rw [putEntry] at mem
    split at mem
    case isTrue same =>
      subst same
      exact (List.mem_cons.mp mem).imp_right (List.mem_cons_of_mem _)
    case isFalse =>
      rcases List.mem_cons.mp mem with rfl | mem
      · exact .inr List.mem_cons_self
      · exact (ih mem).imp_right (List.mem_cons_of_mem _)

/-- A mapping of entries has none but these. -/
theorem mem_of_mem_ofList {l : List (κ × α)} {e : κ × α} (mem : e ∈ (ofList l).entries) :
    e ∈ l := by
  have kept (m : OrderedMap κ α) (l : List (κ × α))
      (mem : e ∈ (l.foldl (fun m e => m.insert e.1 e.2) m).entries) : e ∈ m.entries ∨ e ∈ l := by
    induction l generalizing m with
    | nil => exact .inl mem
    | cons first rest ih =>
      rcases ih _ mem with put | later
      · exact (mem_putEntry put).elim (fun same => .inr (same ▸ List.mem_cons_self)) .inl
      · exact .inr (List.mem_cons_of_mem first later)
  exact (kept empty l mem).resolve_left List.not_mem_nil

/-- A mapping of entries with distinct keys has these entries. -/
theorem entries_ofList {l : List (κ × α)} (distinct : (l.map Prod.fst).Nodup) :
    (ofList l).entries = l :=
  entries_foldl_insert l empty distinct

end AccessNotices.OrderedMap
