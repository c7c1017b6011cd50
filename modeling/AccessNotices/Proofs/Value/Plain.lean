import AccessNotices.Proofs.Value.Form
import Mathlib.Data.List.Nodup
/-!
Values that JSON has as they are.

A plain value is made of nulls, truth values, integers, finite numbers and texts, in lists and in
mappings whose keys are different texts. These are the values of proper JSON values
(`isPlain_iff`), and a plain value that has no more levels than a form may have is the value of its
own form (`eq_toValue_of_isPlain`).
-/

namespace AccessNotices

namespace Value

/-- The value has nothing in it that JSON has not. -/
inductive IsPlain : Value → Prop where
  | null : IsPlain .null
  | bool (b : Bool) : IsPlain (.bool b)
  | int (n : Int) : IsPlain (.int n)
  | float (x : Number.Finite64) : IsPlain (.float (.finite x))
  | text (s : String) : IsPlain (.text s)
  | list {items : List Value} (inside : ∀ v ∈ items, IsPlain v) : IsPlain (.list items)
  | map {entries : List (Value × Value)} (texts : ∀ e ∈ entries, ∃ s, e.1 = .text s)
      (distinct : (entries.map Prod.fst).Nodup) (inside : ∀ e ∈ entries, IsPlain e.2) :
      IsPlain (.map entries)

theorem isPlain_toValue {j : Json} (proper : j.IsProper) : j.toValue.IsPlain := by
  induction proper with
  | null => exact .null
  | bool b => exact .bool b
  | int n => exact .int n
  | float x => exact .float x
  | string s => exact .text s
  | array _ ih =>
    rw [Json.toValue, itemsToValue_eq_map]
    exact .list (List.forall_mem_map.mpr ih)
  | @object members distinct _ ih =>
    rw [Json.toValue, membersToValue_eq_map]
    refine .map (List.forall_mem_map.mpr fun m _ => ⟨m.1, rfl⟩) ?_ (List.forall_mem_map.mpr ih)
    have keys : (members.map fun m => (Value.text m.1, m.2.toValue)).map Prod.fst =
        (members.map Prod.fst).map Value.text := by
      simp
    rw [keys]
    exact List.Nodup.map (fun _ _ same => Value.text.inj same) distinct

/-- A list of images is the image of a list. -/
theorem exists_map_eq {α β : Type} {g : α → β} {holds : α → Prop} {l : List β}
    (each : ∀ b ∈ l, ∃ a, holds a ∧ g a = b) :
    ∃ l' : List α, (∀ a ∈ l', holds a) ∧ l'.map g = l := by
  induction l with
  | nil => exact ⟨[], nofun, rfl⟩
  | cons b rest ih =>
    rw [List.forall_mem_cons] at each
    obtain ⟨⟨a, first, rfl⟩, others⟩ := each
    obtain ⟨l', inside, rfl⟩ := ih others
    exact ⟨a :: l', List.forall_mem_cons.mpr ⟨first, inside⟩, rfl⟩

/-- The plain values are those of the proper JSON values. -/
theorem isPlain_iff {v : Value} : v.IsPlain ↔ ∃ j : Json, j.IsProper ∧ j.toValue = v := by
  constructor
  · intro plain
    induction plain with
    | null => exact ⟨.null, .null, rfl⟩
    | bool b => exact ⟨.bool b, .bool b, rfl⟩
    | int n => exact ⟨.int n, .int n, rfl⟩
    | float x => exact ⟨.float x, .float x, rfl⟩
    | text s => exact ⟨.string s, .string s, rfl⟩
    | list _ ih =>
      obtain ⟨js, proper, rfl⟩ := exists_map_eq ih
      exact ⟨.array js, .array proper, by rw [Json.toValue, itemsToValue_eq_map]⟩
    | @map entries texts distinct _ ih =>
      have member : ∀ e ∈ entries, ∃ m : String × Json,
          m.2.IsProper ∧ (Value.text m.1, m.2.toValue) = e := by
        rintro ⟨k, v⟩ mem
        obtain ⟨s, rfl⟩ := texts (k, v) mem
        obtain ⟨j, proper, rfl⟩ := ih _ mem
        exact ⟨(s, j), proper, rfl⟩
      obtain ⟨members, proper, rfl⟩ := exists_map_eq member
      have names : (members.map Prod.fst).Nodup := by
        rw [List.map_map] at distinct
        exact List.Nodup.of_map Value.text (by rwa [List.map_map])
      exact ⟨.object members, .object names proper, by rw [Json.toValue, membersToValue_eq_map]⟩
  · rintro ⟨j, proper, rfl⟩
    exact isPlain_toValue proper

/-- A form is its own form. -/
theorem toJson_toValue {v : Value} {j : Json} (form : v.toJson = .ok j) :
    j.toValue.toJson = .ok j := by
  have bounded := ((toJson_isOk_iff v).mp ⟨j, form⟩).2
  exact toJsonWithin_toValue (isProper_of_toJson form) (Nat.le_trans (levels_toValue_le form) bounded)

/-- The form of a plain value has the value for its own. -/
theorem eq_toValue_of_isPlain {v : Value} {j : Json} (plain : v.IsPlain)
    (form : v.toJson = .ok j) : j.toValue = v := by
  obtain ⟨k, proper, rfl⟩ := isPlain_iff.mp plain
  have bounded := ((toJson_isOk_iff _).mp ⟨j, form⟩).2
  have own : k.toValue.toJson = .ok k := toJsonWithin_toValue proper bounded
  rw [Except.ok.inj (form.symm.trans own)]

end Value

end AccessNotices
