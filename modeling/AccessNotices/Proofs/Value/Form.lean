import AccessNotices.Proofs.Json.Members
import AccessNotices.Proofs.Value.Encodable
/-!
What the JSON forms of values are like.

Whatever holds of the forms of scalars, and of an array or an object whenever it holds of its parts,
holds of all forms (`inductionOnForms`). So no object in a form has two members of one name,
whatever the keys of the mapping it comes from (`isProper_of_toJson`), and a value without long
integers has a form without them (`isPrintable_of_toJson`). A form that is taken as a value is its
own form, if it has no more levels than a form may have (`toJsonWithin_toValue`).
-/

namespace AccessNotices

namespace Json

/-! ### Long integers -/

theorem arePrintable_iff (items : List Json) :
    arePrintable items = true ↔ ∀ j ∈ items, j.isPrintable = true := by
  induction items with
  | nil => simp [arePrintable]
  | cons j rest ih => rw [arePrintable, Bool.and_eq_true, ih, List.forall_mem_cons]

theorem areMembersPrintable_iff (members : List (String × Json)) :
    areMembersPrintable members = true ↔ ∀ m ∈ members, m.2.isPrintable = true := by
  induction members with
  | nil => simp [areMembersPrintable]
  | cons m rest ih =>
    obtain ⟨k, j⟩ := m
    rw [areMembersPrintable, Bool.and_eq_true, ih, List.forall_mem_cons]

/-- An object is printable if everything in it is. -/
theorem isPrintable_ofMembers {members : List (String × Json)}
    (inside : ∀ m ∈ members, m.2.isPrintable = true) : (ofMembers members).isPrintable = true := by
  rw [ofMembers_eq, isPrintable, areMembersPrintable_iff]
  exact fun m mem => inside m (OrderedMap.mem_of_mem_ofList mem)

end Json

namespace Value

theorem areWritable_iff (items : List Value) :
    areWritable items = true ↔ ∀ v ∈ items, v.isWritable = true := by
  induction items with
  | nil => simp [areWritable]
  | cons v rest ih => rw [areWritable, Bool.and_eq_true, ih, List.forall_mem_cons]

theorem areEntriesWritable_iff (entries : List (Value × Value)) :
    areEntriesWritable entries = true ↔
      ∀ e ∈ entries, e.1.isWritable = true ∧ e.2.isWritable = true := by
  induction entries with
  | nil => simp [areEntriesWritable]
  | cons e rest ih =>
    obtain ⟨k, v⟩ := e
    rw [areEntriesWritable, Bool.and_eq_true, Bool.and_eq_true, ih, List.forall_mem_cons]

/-! ### Forms and their parts -/

theorem toJsonWithin_of_entryToJson {n : Nat} {e : Value × Value} {m : String × Json}
    (given : entryToJson n e = .ok m) : e.2.toJsonWithin n = .ok m.2 := by
  simp only [entryToJson, bind_eq_ok_iff] at given
  obtain ⟨name, -, j, form, whole⟩ := given
  cases whole
  exact form

/-- Induction over the parts of a value together with their forms: what holds of every scalar and
its form, of a list and an array whenever it holds of an item for each item of the array, and of a
mapping and an object whenever it holds of an entry for each member, holds of every value and its
form. -/
theorem inductionOnForms {motive : Value → Json → Prop}
    (scalar : ∀ v j, v.isScalar = true → v.scalarToJson = .ok j → motive v j)
    (list : ∀ items js, (∀ j ∈ js, ∃ v ∈ items, motive v j) → motive (.list items) (.array js))
    (map : ∀ entries members, (∀ m ∈ members, ∃ e ∈ entries, motive e.2 m.2) →
      motive (.map entries) (Json.ofMembers members)) {n : Nat} {v : Value} {j : Json}
    (form : v.toJsonWithin n = .ok j) : motive v j := by
  induction v using inductionOnParts generalizing n j with
  | scalar v isScalar =>
    cases n with
    | zero => cases v <;> cases form
    | succ n =>
      rw [toJsonWithin_of_isScalar n v isScalar] at form
      exact scalar v j isScalar form
  | list items ih =>
    cases n with
    | zero => cases form
    | succ n =>
      obtain ⟨js, forms, rfl⟩ := map_eq_ok_iff.mp form
      rw [itemsToJson_eq_mapM] at forms
      refine list items js fun j mem => ?_
      obtain ⟨v, inside, form⟩ := exists_of_mem_mapM forms mem
      exact ⟨v, inside, ih v inside form⟩
  | map entries ih =>
    cases n with
    | zero => cases form
    | succ n =>
      obtain ⟨members, forms, rfl⟩ := map_eq_ok_iff.mp form
      rw [entriesToJson_eq_mapM] at forms
      refine map entries members fun m mem => ?_
      obtain ⟨e, inside, given⟩ := exists_of_mem_mapM forms mem
      exact ⟨e, inside, ih e inside (toJsonWithin_of_entryToJson given)⟩

/-- The form of a scalar has no parts. -/
theorem isScalar_of_scalarToJson {v : Value} {j : Json} (scalar : v.isScalar = true)
    (form : v.scalarToJson = .ok j) : j.toValue.isScalar = true := by
  cases v with
  | bytes b =>
    obtain ⟨s, -, rfl⟩ := map_eq_ok_iff.mp form
    rfl
  | float x => cases x <;> cases form <;> rfl
  | list items => cases scalar
  | map entries => cases scalar
  | _ =>
    cases form
    rfl

/-- A scalar has no members that could be there twice. -/
theorem isProper_of_isScalar {j : Json} (scalar : j.toValue.isScalar = true) : j.IsProper := by
  cases j with
  | array items => cases scalar
  | object members => cases scalar
  | _ => constructor

/-- No object in the form of a value has two members of one name. -/
theorem isProper_of_toJson {v : Value} {j : Json} (form : v.toJson = .ok j) : j.IsProper := by
  refine inductionOnForms (motive := fun _ j => j.IsProper) ?_ ?_ ?_ form
  · exact fun _ _ scalar form => isProper_of_isScalar (isScalar_of_scalarToJson scalar form)
  · intro items js inside
    refine .array fun j mem => ?_
    obtain ⟨v, -, proper⟩ := inside j mem
    exact proper
  · intro entries members inside
    refine Json.isProper_ofMembers fun m mem => ?_
    obtain ⟨e, -, proper⟩ := inside m mem
    exact proper

/-- The form of a scalar that can be written is printable. -/
theorem isPrintable_of_scalarToJson {v : Value} {j : Json} (scalar : v.isScalar = true)
    (form : v.scalarToJson = .ok j) (writable : v.isWritable = true) : j.isPrintable = true := by
  cases v with
  | int n =>
    cases form
    exact writable
  | bytes b =>
    obtain ⟨s, -, rfl⟩ := map_eq_ok_iff.mp form
    rfl
  | float x => cases x <;> cases form <;> rfl
  | list items => cases scalar
  | map entries => cases scalar
  | _ =>
    cases form
    rfl

/-- The form of a value without long integers has none. -/
theorem isPrintable_of_toJson {v : Value} {j : Json} (form : v.toJson = .ok j)
    (writable : v.isWritable = true) : j.isPrintable = true := by
  refine inductionOnForms (motive := fun v j => v.isWritable = true → j.isPrintable = true)
    ?_ ?_ ?_ form writable
  · exact fun _ _ => isPrintable_of_scalarToJson
  · intro items js inside writable
    rw [isWritable, areWritable_iff] at writable
    rw [Json.isPrintable, Json.arePrintable_iff]
    intro j mem
    obtain ⟨v, item, printable⟩ := inside j mem
    exact printable (writable v item)
  · intro entries members inside writable
    rw [isWritable, areEntriesWritable_iff] at writable
    refine Json.isPrintable_ofMembers fun m mem => ?_
    obtain ⟨e, entry, printable⟩ := inside m mem
    exact printable (writable e entry).2

/-! ### Forms as values -/

/-- Items that are their own forms are so together. -/
theorem itemsToJson_itemsToValue {n : Nat} {items : List Json}
    (same : ∀ j ∈ items, j.toValue.toJsonWithin n = .ok j) :
    itemsToJson n (Json.itemsToValue items) = .ok items := by
  induction items with
  | nil => rfl
  | cons j rest ih =>
    rw [List.forall_mem_cons] at same
    rw [Json.itemsToValue, itemsToJson, same.1, ih same.2]
    rfl

/-- Members that are their own forms are so together. -/
theorem entriesToJson_membersToValue {n : Nat} {members : List (String × Json)}
    (same : ∀ m ∈ members, m.2.toValue.toJsonWithin n = .ok m.2) :
    entriesToJson n (Json.membersToValue members) = .ok members := by
  induction members with
  | nil => rfl
  | cons m rest ih =>
    obtain ⟨k, j⟩ := m
    rw [List.forall_mem_cons] at same
    rw [Json.membersToValue, entriesToJson, memberName, same.1, ih same.2]
    rfl

theorem itemsToValue_eq_map (items : List Json) :
    Json.itemsToValue items = items.map Json.toValue := by
  induction items with
  | nil => rfl
  | cons j rest ih => rw [Json.itemsToValue, ih, List.map_cons]

theorem membersToValue_eq_map (members : List (String × Json)) :
    Json.membersToValue members = members.map fun m => (.text m.1, m.2.toValue) := by
  induction members with
  | nil => rfl
  | cons m rest ih => rw [Json.membersToValue, ih, List.map_cons]

/-- A form has no more levels than the value that it comes from. -/
theorem levels_toValue_le {n : Nat} {v : Value} {j : Json} (form : v.toJsonWithin n = .ok j) :
    j.toValue.levels ≤ v.levels := by
  refine inductionOnForms (motive := fun v j => j.toValue.levels ≤ v.levels) ?_ ?_ ?_ form
  · intro v j scalar form
    have single := levels_of_isScalar j.toValue (isScalar_of_scalarToJson scalar form)
    exact Nat.le_of_eq (single.trans (levels_of_isScalar v scalar).symm)
  · intro items js inside
    rw [Json.toValue, levels, levels, Nat.succ_le_succ_iff, itemLevels_le_iff, itemsToValue_eq_map,
      List.forall_mem_map]
    intro j mem
    obtain ⟨v, item, bounded⟩ := inside j mem
    exact Nat.le_trans bounded ((itemLevels_le_iff items _).mp (Nat.le_refl _) v item)
  · intro entries members inside
    rw [Json.ofMembers_eq, Json.toValue, levels, levels, Nat.succ_le_succ_iff, entryLevels_le_iff,
      membersToValue_eq_map, List.forall_mem_map]
    intro m mem
    obtain ⟨e, entry, bounded⟩ := inside m (OrderedMap.mem_of_mem_ofList mem)
    exact Nat.le_trans bounded ((entryLevels_le_iff entries _).mp (Nat.le_refl _) e entry)

/-- A JSON value that has no more levels than allowed is its own form. -/
theorem toJsonWithin_toValue {n : Nat} {j : Json} (proper : j.IsProper)
    (bounded : j.toValue.levels ≤ n) : j.toValue.toJsonWithin n = .ok j := by
  induction proper generalizing n with
  | null | bool | int | float | string =>
    obtain ⟨n, rfl⟩ := Nat.exists_eq_add_one_of_ne_zero (Nat.ne_of_gt bounded)
    rfl
  | @array items _ ih =>
    obtain ⟨n, rfl⟩ := Nat.exists_eq_add_one_of_ne_zero (show n ≠ 0 by rintro rfl; cases bounded)
    rw [Json.toValue, levels, Nat.succ_le_succ_iff, itemLevels_le_iff, itemsToValue_eq_map]
      at bounded
    have inside := itemsToJson_itemsToValue fun j mem =>
      ih j mem (bounded j.toValue (List.mem_map_of_mem mem))
    rw [Json.toValue, toJsonWithin, inside]
    rfl
  | @object members distinct _ ih =>
    obtain ⟨n, rfl⟩ := Nat.exists_eq_add_one_of_ne_zero (show n ≠ 0 by rintro rfl; cases bounded)
    rw [Json.toValue, levels, Nat.succ_le_succ_iff, entryLevels_le_iff, membersToValue_eq_map]
      at bounded
    have inside := entriesToJson_membersToValue fun m mem =>
      ih m mem (bounded (.text m.1, m.2.toValue) (List.mem_map.mpr ⟨m, mem, rfl⟩))
    rw [Json.toValue, toJsonWithin, inside, Except.map, Json.ofMembers_of_nodup distinct]

end Value

end AccessNotices
