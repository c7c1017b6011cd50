import AccessNotices.Proofs.Traversal
import AccessNotices.Value.Json
/-!
Which values have a JSON form.

A JSON form can be missing for two reasons only: something that has to become a text cannot, or
there are too many levels. `Value.isSpellable` and `Value.levels` look for these two without
building the form. Main statement: a value has a JSON form of at most so many levels exactly when it
can be spelled and has no more levels than that (`hasJson_iff`).
-/

namespace AccessNotices

open Text

namespace Value

/-- Is a value neither a list nor a mapping? -/
def isScalar : Value → Bool
  | list _ => false
  | map _ => false
  | _ => true

/-- Induction over the parts of a value: what holds of every scalar, of a list whenever it holds of
all its items, and of a mapping whenever it holds of everything that its keys lead to, holds of
every value. -/
theorem inductionOnParts {motive : Value → Prop}
    (scalar : ∀ v, v.isScalar = true → motive v)
    (list : ∀ items, (∀ v ∈ items, motive v) → motive (.list items))
    (map : ∀ entries, (∀ e ∈ entries, motive e.2) → motive (.map entries)) :
    ∀ v, motive v := by
  intro v
  refine @Value.rec motive (fun items => ∀ v ∈ items, motive v)
    (fun entries => ∀ e ∈ entries, motive e.2) (fun e => motive e.2)
    (scalar _ rfl) (fun _ => scalar _ rfl) (fun _ => scalar _ rfl) (fun _ => scalar _ rfl)
    (fun _ => scalar _ rfl) (fun _ => scalar _ rfl) (fun _ => scalar _ rfl)
    (fun _ => scalar _ rfl) (fun _ => scalar _ rfl) (fun _ => scalar _ rfl)
    (fun _ => scalar _ rfl) (fun _ => scalar _ rfl) list map ?_ ?_ ?_ ?_ ?_ v
  · intro v h
    cases h
  · intro head tail first rest v h
    cases h with
    | head => exact first
    | tail _ h => exact rest v h
  · intro e h
    cases h
  · intro head tail first rest e h
    cases h with
    | head => exact first
    | tail _ h => exact rest e h
  · intro key value _ h
    exact h

/-! ### Texts and levels -/

/-- Can a key become the name of a member? A byte string has to be UTF-8, a text must not hold half
of a character, and an integer must not have too many digits. -/
def isNameable : Value → Bool
  | bytes b => (Utf8.decode? b).isSome
  | codes _ => false
  | v => v.isWritable

mutual

/-- Can everything in a value that has to become a text: the byte strings and the keys? -/
def isSpellable : Value → Bool
  | bytes b => (Utf8.decode? b).isSome
  | list items => areSpellable items
  | map entries => areEntriesSpellable entries
  | _ => true

/-- Can all items of a list be spelled? -/
def areSpellable : List Value → Bool
  | [] => true
  | v :: rest => v.isSpellable && areSpellable rest

/-- Can all entries of a mapping be spelled? -/
def areEntriesSpellable : List (Value × Value) → Bool
  | [] => true
  | (k, v) :: rest => k.isNameable && v.isSpellable && areEntriesSpellable rest

end

mutual

/-- How many levels a value has: a scalar has one, a list or a mapping one more than what it
holds. -/
def levels : Value → Nat
  | list items => itemLevels items + 1
  | map entries => entryLevels entries + 1
  | _ => 1

/-- The most levels of an item of a list. -/
def itemLevels : List Value → Nat
  | [] => 0
  | v :: rest => max v.levels (itemLevels rest)

/-- The most levels of anything that a key of a mapping leads to. -/
def entryLevels : List (Value × Value) → Nat
  | [] => 0
  | (_, v) :: rest => max v.levels (entryLevels rest)

end

theorem areSpellable_iff (items : List Value) :
    areSpellable items = true ↔ ∀ v ∈ items, v.isSpellable = true := by
  induction items with
  | nil => simp [areSpellable]
  | cons v rest ih => simp [areSpellable, ih]

theorem areEntriesSpellable_iff (entries : List (Value × Value)) :
    areEntriesSpellable entries = true ↔
      ∀ e ∈ entries, e.1.isNameable = true ∧ e.2.isSpellable = true := by
  induction entries with
  | nil => simp [areEntriesSpellable]
  | cons e rest ih =>
    obtain ⟨k, v⟩ := e
    simp [areEntriesSpellable, ih]

theorem itemLevels_le_iff (items : List Value) (n : Nat) :
    itemLevels items ≤ n ↔ ∀ v ∈ items, v.levels ≤ n := by
  induction items with
  | nil => simp [itemLevels]
  | cons v rest ih => rw [itemLevels, Nat.max_le, ih, List.forall_mem_cons]

theorem entryLevels_le_iff (entries : List (Value × Value)) (n : Nat) :
    entryLevels entries ≤ n ↔ ∀ e ∈ entries, e.2.levels ≤ n := by
  induction entries with
  | nil => simp [entryLevels]
  | cons e rest ih =>
    obtain ⟨k, v⟩ := e
    rw [entryLevels, Nat.max_le, ih, List.forall_mem_cons]

/-! ### JSON forms -/

/-- The value has a JSON form of at most so many levels. -/
def HasJson (levels : Nat) (v : Value) : Prop :=
  ∃ j, v.toJsonWithin levels = .ok j

/-- A byte string can become a text exactly when it is UTF-8. -/
theorem decodeBytes_isOk_iff (b : List UInt8) :
    (∃ s, decodeBytes b = .ok s) ↔ (Utf8.decode? b).isSome = true := by
  unfold decodeBytes
  cases Utf8.decode? b with
  | none => simp
  | some chars => simp

/-- What is written is what would be displayed, if no integer in it is too long. -/
theorem write_eq_ok_iff {v : Value} {s : String} :
    v.write = .ok s ↔ v.isWritable = true ∧ s = v.display := by
  rw [write, written?]
  cases v.isWritable <;> simp [eq_comm]

/-- An integer of three digits at most can be written. -/
theorem isWritableInt_of_lt {n : Int} (short : n.natAbs < 1000) : isWritableInt n = true := by
  -- For any limit, so that the power of this one is not computed.
  have below (limit : Nat) (few : 3 ≤ limit) : n.natAbs < Nat.pow 10 limit :=
    Nat.lt_of_lt_of_le short (Nat.pow_le_pow_right (show 0 < 10 by decide) few)
  exact decide_eq_true (below Number.digitLimit (by decide))

/-- The least integer that is too long to be written. -/
def longInteger : Int :=
  Nat.pow 10 Number.digitLimit

theorem not_isWritableInt_longInteger : isWritableInt longInteger = false := by
  rw [isWritableInt, longInteger, Int.natAbs_natCast]
  exact decide_eq_false (Nat.lt_irrefl _)

/-- A value can be written as a plain text exactly when no integer in it is too long. -/
theorem write_isOk_iff (v : Value) : (∃ s, v.write = .ok s) ↔ v.isWritable = true := by
  simp [write_eq_ok_iff]

/-- A key becomes the name of a member exactly when it can be one. -/
theorem memberName_isOk_iff (k : Value) :
    (∃ name, k.memberName = .ok name) ↔ k.isNameable = true := by
  cases k with
  | bytes b => exact decodeBytes_isOk_iff b
  | codes t => simp [memberName, isNameable]
  | text | bool | role | moment => simp [memberName, isNameable, isWritable]
  | _ =>
    rw [memberName, isNameable]
    · exact write_isOk_iff _
    all_goals nofun

/-- A scalar has a form exactly when it can be spelled. -/
theorem scalarToJson_isOk_iff (v : Value) (scalar : v.isScalar = true) :
    (∃ j, v.scalarToJson = .ok j) ↔ v.isSpellable = true := by
  cases v with
  | bytes b =>
    rw [isSpellable, ← decodeBytes_isOk_iff]
    cases h : decodeBytes b with
    | ok s => simp [scalarToJson, h, Except.map]
    | error e => simp [scalarToJson, h, Except.map]
  | float x => cases x <;> simp [scalarToJson, isSpellable]
  | list items => cases scalar
  | map entries => cases scalar
  | _ => simp [scalarToJson, isSpellable]

/-- A scalar is one level. -/
theorem levels_of_isScalar (v : Value) (scalar : v.isScalar = true) : v.levels = 1 := by
  cases v with
  | list items => cases scalar
  | map entries => cases scalar
  | _ => rfl

theorem toJsonWithin_of_isScalar (levels : Nat) (v : Value) (scalar : v.isScalar = true) :
    v.toJsonWithin (levels + 1) = v.scalarToJson := by
  cases v with
  | list items => cases scalar
  | map entries => cases scalar
  | _ => rfl

/-- The items of a list are gone through one by one. -/
theorem itemsToJson_eq_mapM (n : Nat) (items : List Value) :
    itemsToJson n items = items.mapM (toJsonWithin n) := by
  induction items with
  | nil => rfl
  | cons v rest ih =>
    rw [itemsToJson, ih, List.mapM_cons]
    rfl

def entryToJson (n : Nat) (e : Value × Value) : Except WritingError (String × Json) := do
  let name ← e.1.memberName
  let j ← e.2.toJsonWithin n
  .ok (name, j)

/-- The entries of a mapping are gone through one by one. -/
theorem entriesToJson_eq_mapM (n : Nat) (entries : List (Value × Value)) :
    entriesToJson n entries = entries.mapM (entryToJson n) := by
  induction entries with
  | nil => rfl
  | cons e rest ih =>
    obtain ⟨k, v⟩ := e
    rw [entriesToJson, ih, List.mapM_cons, entryToJson]
    cases k.memberName with
    | error e => rfl
    | ok name => cases v.toJsonWithin n <;> rfl

theorem entryToJson_isOk_iff (n : Nat) (e : Value × Value) :
    (∃ m, entryToJson n e = .ok m) ↔ (∃ name, e.1.memberName = .ok name) ∧ e.2.HasJson n := by
  simp only [HasJson, entryToJson, bind_eq_ok_iff]
  constructor
  · rintro ⟨m, name, named, j, form, -⟩
    exact ⟨⟨name, named⟩, j, form⟩
  · rintro ⟨⟨name, named⟩, j, form⟩
    exact ⟨(name, j), name, named, j, form, rfl⟩

/-- The items of a list have JSON forms exactly when each of them has one. -/
theorem itemsToJson_isOk_iff (levels : Nat) (items : List Value) :
    (∃ js, itemsToJson levels items = .ok js) ↔ ∀ v ∈ items, v.HasJson levels := by
  rw [itemsToJson_eq_mapM]
  exact exists_mapM_iff

/-- The entries of a mapping have members exactly when each key has a name and each value a JSON
form. -/
theorem entriesToJson_isOk_iff (levels : Nat) (entries : List (Value × Value)) :
    (∃ members, entriesToJson levels entries = .ok members) ↔
      ∀ e ∈ entries, (∃ name, e.1.memberName = .ok name) ∧ e.2.HasJson levels := by
  simp only [← entryToJson_isOk_iff, entriesToJson_eq_mapM]
  exact exists_mapM_iff

/-- A list has a form exactly when its items have one with a level less. -/
theorem hasJson_list_iff (levels : Nat) (items : List Value) :
    HasJson (levels + 1) (.list items) ↔ ∀ v ∈ items, v.HasJson levels := by
  rw [← itemsToJson_isOk_iff, HasJson, toJsonWithin]
  cases itemsToJson levels items with
  | ok js => simp [Except.map]
  | error e => simp [Except.map]

/-- A mapping has a form exactly when its keys have names, and its values forms with a level less.
-/
theorem hasJson_map_iff (levels : Nat) (entries : List (Value × Value)) :
    HasJson (levels + 1) (.map entries) ↔
      ∀ e ∈ entries, e.1.isNameable = true ∧ e.2.HasJson levels := by
  have members := entriesToJson_isOk_iff levels entries
  simp only [memberName_isOk_iff] at members
  rw [← members, HasJson, toJsonWithin]
  cases entriesToJson levels entries with
  | ok members => simp [Except.map]
  | error e => simp [Except.map]

/-- A value has a JSON form of at most so many levels exactly when it can be spelled and has no more
levels than that. -/
theorem hasJson_iff (n : Nat) (v : Value) :
    v.HasJson n ↔ v.isSpellable = true ∧ v.levels ≤ n := by
  -- The number of levels goes down with each part, so the induction is on the value.
  induction v using inductionOnParts generalizing n with
  | scalar v scalar =>
    cases n with
    | zero => simp [HasJson, toJsonWithin, levels_of_isScalar v scalar]
    | succ n =>
      rw [HasJson, toJsonWithin_of_isScalar n v scalar, scalarToJson_isOk_iff v scalar,
        levels_of_isScalar v scalar]
      simp
  | list items ih =>
    cases n with
    | zero => simp [HasJson, toJsonWithin, levels]
    | succ n =>
      rw [hasJson_list_iff, isSpellable, areSpellable_iff, levels, Nat.succ_le_succ_iff,
        itemLevels_le_iff]
      constructor
      · intro h
        exact ⟨fun v hv => ((ih v hv n).mp (h v hv)).1, fun v hv => ((ih v hv n).mp (h v hv)).2⟩
      · rintro ⟨utf8, bounded⟩ v hv
        exact (ih v hv n).mpr ⟨utf8 v hv, bounded v hv⟩
  | map entries ih =>
    cases n with
    | zero => simp [HasJson, toJsonWithin, levels]
    | succ n =>
      rw [hasJson_map_iff, isSpellable, areEntriesSpellable_iff, levels, Nat.succ_le_succ_iff,
        entryLevels_le_iff]
      constructor
      · intro h
        exact ⟨fun e he => ⟨(h e he).1, ((ih e he n).mp (h e he).2).1⟩,
          fun e he => ((ih e he n).mp (h e he).2).2⟩
      · rintro ⟨utf8, bounded⟩ e he
        exact ⟨(utf8 e he).1, (ih e he n).mpr ⟨(utf8 e he).2, bounded e he⟩⟩

/-- **When a value has a form**: it can be spelled, and has no more levels than a form may have. -/
theorem toJson_isOk_iff (v : Value) :
    (∃ j, v.toJson = .ok j) ↔ v.isSpellable = true ∧ v.levels ≤ levelLimit :=
  hasJson_iff levelLimit v

end Value

end AccessNotices
