import AccessNotices.Proofs.Record.Shape
/-!
Records that are assembled again.

A record has none of the columns that the other party is taken from, so assembling it again finds
nobody there, and all else is put back as it was (`Row.recordOf_recordOf`). What comes of this is
its own record (`Row.assembleAll_vacated`). Main statement: `Row.assembleTimes_settles`, for any
number of repetitions.
-/

namespace AccessNotices

def Party.emptyIdentity : Value :=
  .ofFields
    [("email", .null),
     ("name", .ofFields [("firstName", .null), ("lastName", .null)]),
     ("id", .null)]

theorem Party.toJson_unknown :
    ∃ j, Party.unknown.toJson = .ok j ∧ j.toValue = Party.emptyIdentity :=
  ⟨_, rfl, rfl⟩

namespace Row

variable {caller : Party} {p : Perspective} {url own other : Value} {row record : Row}

/-! ### One record -/

/-- A record has none of the columns that are left out. -/
theorem get?_recordOf_of_omitted {name : String} (left : name ∈ p.omitted) :
    (row.recordOf p url own other).get? name = none := by
  rw [get?_recordOf_of_notMem (Perspective.notMem_supplied left), if_pos left]

/-- There is nothing left to leave out. -/
theorem strip_recordOf : (row.recordOf p url own other).strip p = row.recordOf p url own other := by
  refine OrderedMap.filterKeys_eq_self fun name mem => ?_
  rw [p.dropped_columns]
  by_cases left : name ∈ p.omitted
  · exact absurd mem ((OrderedMap.get?_eq_none_iff _ name).mp (get?_recordOf_of_omitted left))
  · simpa using left

/-- There is nobody left to take the other party from. -/
theorem counterpart_recordOf :
    (row.recordOf p url own other).counterpart p = .ok .unknown := by
  have missing : ∀ name ∈ p.columns.dropped,
      (row.recordOf p url own other).column name = .null := by
    intro name dropped
    rw [column, get?_recordOf_of_omitted (p.dropped_columns ▸ dropped)]
    rfl
  simp only [CounterpartColumns.dropped, List.forall_mem_cons] at missing
  obtain ⟨noFirst, noLast, noId, noEmail, -⟩ := missing
  simp only [counterpart, noFirst, noLast, noId, noEmail]
  rfl

/-- The record of a record is that of the row, but for the other party. -/
theorem recordOf_recordOf (row : Row) (p : Perspective) (url own other other' : Value) :
    (row.recordOf p url own other).recordOf p url own other' = row.recordOf p url own other' := by
  have server : (row.recordOf p url own other).get? resourceServerColumn = some url := by
    rw [get?_recordOf]
    cases p <;> rfl
  have side : (row.recordOf p url own other).get? p.text = some own := by
    rw [get?_recordOf]
    cases p <;> rfl
  calc (row.recordOf p url own other).recordOf p url own other'
      = (((row.recordOf p url own other).insert resourceServerColumn url).insert p.text own).insert
          p.opposite.text other' := by rw [recordOf, strip_recordOf]
    _ = (row.recordOf p url own other).insert p.opposite.text other' := by
          rw [OrderedMap.insert_eq_self server, OrderedMap.insert_eq_self side]
    _ = row.recordOf p url own other' := OrderedMap.insert_insert _ _ other other'

/-- The record with nobody for the other party. -/
def vacated (p : Perspective) (record : Row) : Row :=
  record.insert p.opposite.text Party.emptyIdentity

/-- Vacating a record puts nobody into the place of the other party. -/
theorem vacated_recordOf (row : Row) (p : Perspective) (url own other : Value) :
    (row.recordOf p url own other).vacated p = row.recordOf p url own Party.emptyIdentity :=
  OrderedMap.insert_insert _ _ other Party.emptyIdentity

/-- Nobody can be put there once. -/
theorem vacated_vacated (p : Perspective) (record : Row) :
    (record.vacated p).vacated p = record.vacated p :=
  OrderedMap.insert_insert _ _ _ _

/-- What is assembled from a row can be assembled again: it is vacated then. -/
theorem assemble_assembled (assembled : row.assemble caller p url = .ok record) :
    record.assemble caller p url = .ok (record.vacated p) := by
  obtain ⟨own, other, written, -, rfl⟩ := assemble_eq_ok_iff.mp assembled
  obtain ⟨nobody, form, value⟩ := Party.toJson_unknown
  have object : (row.recordOf p url own.toValue other.toValue).counterpartObject p = .ok nobody := by
    rw [counterpartObject, counterpart_recordOf]
    exact form
  rw [assemble_of_ok written object, recordOf_recordOf, vacated_recordOf, value]

/-- Vacating changes what stands for the other party, and no other column. -/
theorem assembled_vacated (assembled : row.assemble caller p url = .ok record) :
    (record.vacated p).keys = record.keys ∧
      (record.vacated p).get? (View.of p).counterpart = some Party.emptyIdentity ∧
      ∀ name ≠ (View.of p).counterpart, (record.vacated p).get? name = record.get? name := by
  obtain ⟨own, other, -, -, rfl⟩ := assemble_eq_ok_iff.mp assembled
  have counterpart : (View.of p).counterpart = p.opposite.text := by
    cases p <;> rfl
  rw [counterpart, vacated]
  refine ⟨?_, ?_, fun name notOther => ?_⟩
  · rw [← vacated, vacated_recordOf, keys_recordOf, keys_recordOf]
  · rw [OrderedMap.get?_insert, if_pos rfl]
  · rw [OrderedMap.get?_insert, if_neg notOther]

/-! ### Any number of times -/

/-- Rows assembled so many times, each time from what came of the last. -/
def assembleTimes (caller : Party) (p : Perspective) (url : Value) :
    Nat → List Row → Except WritingError (List Row)
  | 0, rows => .ok rows
  | n + 1, rows => do
    let records ← assembleTimes caller p url n rows
    assembleAll caller p url records

theorem assembleTimes_succ_of_ok {n : Nat} {rows records : List Row}
    (assembled : assembleTimes caller p url n rows = .ok records) :
    assembleTimes caller p url (n + 1) rows = assembleAll caller p url records := by
  rw [assembleTimes, assembled]
  rfl

/-- Records are vacated when they are assembled again. -/
theorem assembleAll_assembled {rows records : List Row}
    (assembled : assembleAll caller p url rows = .ok records) :
    assembleAll caller p url records = .ok (records.map (vacated p)) := by
  rw [assembleAll_eq_ok_iff, List.forall₂_map_right_iff, List.forall₂_same]
  intro record mem
  obtain ⟨row, -, single⟩ := exists_of_mem_mapM assembled mem
  exact assemble_assembled single

/-- From the second time on, assembling changes nothing. -/
theorem assembleAll_vacated {rows records : List Row}
    (assembled : assembleAll caller p url rows = .ok records) :
    assembleAll caller p url (records.map (vacated p)) = .ok (records.map (vacated p)) := by
  have again := assembleAll_assembled (assembleAll_assembled assembled)
  have settled : (records.map (vacated p)).map (vacated p) = records.map (vacated p) := by
    simp [vacated_vacated]
  rwa [settled] at again

/-- From the second time on nothing changes but that nobody is the other party. -/
theorem assembleTimes_add_two {rows records : List Row}
    (assembled : assembleAll caller p url rows = .ok records) (n : Nat) :
    assembleTimes caller p url (n + 2) rows = .ok (records.map (vacated p)) := by
  induction n with
  | zero =>
    have once : assembleTimes caller p url 1 rows = .ok records := assembled
    rw [assembleTimes_succ_of_ok once, assembleAll_assembled assembled]
  | succ n ih => rw [assembleTimes_succ_of_ok ih, assembleAll_vacated assembled]

/-- **Assembling again.** Rows that can be assembled once can be assembled any number of times. From
the second time on the records stay the same, with their columns in the same order; they are those
of the first time, but that the other party is nobody. -/
theorem assembleTimes_settles {rows once : List Row}
    (assembled : assembleAll caller p url rows = .ok once) :
    ∃ twice, assembleTimes caller p url 2 rows = .ok twice ∧
      (∀ n, 2 ≤ n → assembleTimes caller p url n rows = assembleTimes caller p url 2 rows) ∧
      assembleAll caller p url twice = .ok twice ∧
      List.Forall₂ (fun first second => second.keys = first.keys ∧
        second.get? (View.of p).counterpart = some Party.emptyIdentity ∧
        ∀ name ≠ (View.of p).counterpart, second.get? name = first.get? name) once twice := by
  refine ⟨once.map (vacated p), assembleTimes_add_two assembled 0, fun n more => ?_,
    assembleAll_vacated assembled, ?_⟩
  · obtain ⟨m, rfl⟩ := Nat.exists_eq_add_of_le' more
    rw [assembleTimes_add_two assembled m, assembleTimes_add_two assembled 0]
  · rw [List.forall₂_map_right_iff, List.forall₂_same]
    intro record mem
    obtain ⟨row, -, single⟩ := exists_of_mem_mapM assembled mem
    exact assembled_vacated single

/-- A row that has a column named as the other party's settles at the second time. -/
theorem assembleTimes_crowdedRow :
    ∃ once twice,
      assembleAll consumerCaller.party .consumer (.text "rs://a") [crowdedRow] = .ok once ∧
      assembleTimes consumerCaller.party .consumer (.text "rs://a") 2 [crowdedRow] = .ok twice ∧
      assembleTimes consumerCaller.party .consumer (.text "rs://a") 5 [crowdedRow] = .ok twice ∧
      ∃ record ∈ twice, record.get? "provider" = some Party.emptyIdentity := by
  obtain ⟨written, writable⟩ := isWritable_crowdedRow
  have all : ∀ row ∈ [crowdedRow], row.IsWritable .consumer :=
    List.forall_mem_singleton.mpr writable
  obtain ⟨once, assembled⟩ := (exists_assembleAll_iff (.text "rs://a")).mpr (.inr ⟨written, all⟩)
  obtain ⟨twice, second, stable, -, each⟩ := assembleTimes_settles assembled
  have fifth := stable 5 (by decide)
  refine ⟨once, twice, assembled, second, fifth.trans second, ?_⟩
  have length := length_assembleAll assembled
  cases each with
  | nil => cases length
  | cons first rest => exact ⟨_, List.mem_cons_self, first.2.1⟩

end Row

end AccessNotices
