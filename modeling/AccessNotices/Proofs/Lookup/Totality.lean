import AccessNotices.Proofs.Lookup.Envelope
/-!
How far assembling is total.

Missing columns and columns of unexpected kinds do no harm: a row has a record unless the other
party's email or one of its names cannot be spelled or has too many levels, or its identifier holds
an integer that is too long to be written. Rows are assembled in order, and the first one that has
no record takes away those of all the others (`Row.assembleAll_eq_error_iff`). Main statement:
`Lookup.assembled_iff_writable`.
-/

namespace AccessNotices

namespace Party

/-- A party can be written: its email and its names can be spelled, and they have no more levels
than a JSON form may have. -/
def IsWritable (party : Party) : Prop :=
  ∀ v ∈ [party.email, party.firstName, party.lastName],
    v.isSpellable = true ∧ v.levels ≤ Value.levelLimit

/-- A party has an object exactly when it can be written. -/
theorem exists_toJson_iff (party : Party) : (∃ j, party.toJson = .ok j) ↔ party.IsWritable := by
  rw [toJson_isOk_iff]
  simp only [Value.toJson_isOk_iff, IsWritable, List.forall_mem_cons]
  simp

end Party

namespace Row

variable {caller : Party} {p : Perspective} {url : Value}

/-- Assembling fails with what the first row fails with that cannot be assembled. -/
theorem assembleAll_eq_error_iff {rows : List Row} {e : WritingError} :
    assembleAll caller p url rows = .error e ↔
      ∃ before row after, rows = before ++ row :: after ∧
        (∀ r ∈ before, ∃ record, r.assemble caller p url = .ok record) ∧
        row.assemble caller p url = .error e := by
  induction rows with
  | nil =>
    constructor
    · nofun
    · rintro ⟨before, row, after, whole, -⟩
      simp at whole
  | cons first rest ih =>
    rw [assembleAll_cons]
    cases attempt : first.assemble caller p url with
    | error e' =>
      constructor
      · intro failed
        cases failed
        exact ⟨[], first, rest, rfl, nofun, attempt⟩
      · rintro ⟨before, row, after, whole, assembled, failed⟩
        obtain ⟨rfl, here⟩ | ⟨before', rfl, -⟩ := List.cons_eq_append_iff.mp whole
        · cases here
          rw [attempt] at failed
          cases failed
          rfl
        · obtain ⟨record, ok⟩ := assembled first List.mem_cons_self
          rw [attempt] at ok
          cases ok
    | ok record =>
      -- Behind a row that has a record, a failure is one of the rest.
      have passedOn : (Except.ok record >>= fun record => do
          let records ← assembleAll caller p url rest
          .ok (record :: records)) = .error e ↔ assembleAll caller p url rest = .error e := by
        cases assembleAll caller p url rest <;> simp [bind, Except.bind]
      rw [passedOn, ih]
      constructor
      · rintro ⟨before, row, after, rfl, assembled, failed⟩
        exact ⟨first :: before, row, after, rfl,
          List.forall_mem_cons.mpr ⟨⟨record, attempt⟩, assembled⟩, failed⟩
      · rintro ⟨before, row, after, whole, assembled, failed⟩
        obtain ⟨rfl, here⟩ | ⟨before', rfl, here⟩ := List.cons_eq_append_iff.mp whole
        · cases here
          rw [attempt] at failed
          cases failed
        · exact ⟨before', row, after, here, (List.forall_mem_cons.mp assembled).2, failed⟩

theorem forall_assemble_of_assembleAll {rows records : List Row}
    (assembled : assembleAll caller p url rows = .ok records) :
    ∀ row ∈ rows, ∃ record, row.assemble caller p url = .ok record :=
  exists_mapM_iff.mp ⟨records, assembled⟩

/-- A row has a record exactly when the caller and its other party can be written. -/
theorem exists_assemble_iff (row : Row) :
    (∃ record, row.assemble caller p url = .ok record) ↔ caller.IsWritable ∧ row.IsWritable p := by
  rw [assemble_isOk_iff, Party.exists_toJson_iff]

/-- There is a record for each row exactly when there are no rows, or the caller and the other party
of each row can be written. -/
theorem exists_assembleAll_iff (url : Value) {rows : List Row} :
    (∃ records, assembleAll caller p url rows = .ok records) ↔
      rows = [] ∨ caller.IsWritable ∧ ∀ row ∈ rows, row.IsWritable p := by
  constructor
  · rintro ⟨records, assembled⟩
    have writable : ∀ row ∈ rows, caller.IsWritable ∧ row.IsWritable p := fun row mem =>
      row.exists_assemble_iff.mp (forall_assemble_of_assembleAll assembled row mem)
    cases rows with
    | nil => exact .inl rfl
    | cons first rest =>
      exact .inr ⟨(writable first List.mem_cons_self).1, fun row mem => (writable row mem).2⟩
  · rintro (rfl | ⟨written, writable⟩)
    · exact ⟨[], rfl⟩
    · exact exists_assembleAll fun row mem => row.exists_assemble_iff.mpr ⟨written, writable row mem⟩

/-- There is one record for each row. -/
theorem length_assembleAll {rows records : List Row}
    (assembled : assembleAll caller p url rows = .ok records) : records.length = rows.length :=
  (assembleAll_eq_ok_iff.mp assembled).length_eq.symm

end Row

namespace Lookup

/-- A row for a consumer whose owner has a given identifier. -/
def rowOwnedBy (id : Value) : Row :=
  .ofList [("ownerId", id)]

theorem not_isWritable_longOwner :
    ¬ (rowOwnedBy (.int Value.longInteger)).IsWritable .consumer := by
  rintro ⟨short, -⟩
  exact Bool.noConfusion (Value.not_isWritableInt_longInteger.symm.trans short)

variable {engine : Engine} {caller : Caller} {statements : Statements} {rows records : List Row}

/-- A lookup whose rows can be assembled gives their records. -/
theorem get_of_records (reads : (engine (queryFor caller statements)).Reads rows)
    (some : rows ≠ []) (assembled : recordsFor caller rows = .ok records) :
    (get engine caller statements).result = .ok (.success records) := by
  have built := congrArg Transcript.result (build_of_records reads some assembled)
  rw [get, Transcript.bind_of_ok built]
  rfl

/-- A lookup with a row that cannot be assembled raises what assembling it raises. -/
theorem get_of_unwritable {e : WritingError}
    (reads : (engine (queryFor caller statements)).Reads rows) (some : rows ≠ [])
    (failed : recordsFor caller rows = .error e) :
    (get engine caller statements).result = .error (.unwritable e) := by
  have built := congrArg Transcript.result (build_of_unwritable reads some failed)
  rw [get, Transcript.bind_of_error built]

/-- **When assembling is total.** There is one record for each row exactly when there are no rows,
or the caller and the other party of each row can be written. A lookup that reads rows gives an
envelope with one record for each of them if their other parties can be written; if not, it raises
what the first row fails with whose other party cannot. -/
theorem assembled_iff_writable (party : Party) (p : Perspective) (url : Value) (rows : List Row) :
    ((∃ records, Row.assembleAll party p url rows = .ok records ∧ records.length = rows.length) ↔
      rows = [] ∨ party.IsWritable ∧ ∀ row ∈ rows, row.IsWritable p) ∧
    ∀ (engine : Engine) (caller : Caller) (statements : Statements),
      (engine (queryFor caller statements)).Reads rows → rows ≠ [] →
      let side := Perspective.classify caller.role
      ((∀ row ∈ rows, row.IsWritable side) →
        ∃ records, (get engine caller statements).result = .ok (.success records) ∧
          records.length = rows.length) ∧
      ((∃ row ∈ rows, ¬ row.IsWritable side) →
        ∃ before row after e, rows = before ++ row :: after ∧ (∀ r ∈ before, r.IsWritable side) ∧
          row.assemble caller.party side (.text caller.resourceServerUrl) = .error e ∧
          (get engine caller statements).result = .error (.unwritable e)) := by
  constructor
  · rw [← Row.exists_assembleAll_iff url]
    constructor
    · rintro ⟨records, assembled, -⟩
      exact ⟨records, assembled⟩
    · rintro ⟨records, assembled⟩
      exact ⟨records, assembled, Row.length_assembleAll assembled⟩
  · intro engine caller statements reads some side
    constructor
    · intro writable
      obtain ⟨records, assembled⟩ := exists_recordsFor caller writable
      exact ⟨records, get_of_records reads some assembled, Row.length_assembleAll assembled⟩
    · intro unwritable
      obtain ⟨e, attempt⟩ := exists_recordsFor_error caller unwritable
      obtain ⟨before, row, after, whole, assembled, failed⟩ :=
        Row.assembleAll_eq_error_iff.mp attempt
      refine ⟨before, row, after, e, whole, ?_, failed, get_of_unwritable reads some attempt⟩
      exact fun r mem => (r.exists_assemble_iff.mp (assembled r mem)).2

/-- A name that is a text gives a record; a name that is a byte string and not UTF-8, and an
identifier that is too long to be written, take the whole envelope away. -/
theorem assembled_unless_name_in_bytes :
    (∃ records, (get (fun _ => .entered (.complete [rowNamed (.text "Jo")]) none) consumerCaller
      .builtIn).result = .ok (.success records) ∧ records.length = 1) ∧
    (∃ e, (get (fun _ => .entered (.complete [rowNamed (.text "Jo"), rowNamed (.bytes [0xFF])]) none)
      consumerCaller .builtIn).result = .error (.unwritable e)) ∧
    ∃ e, (get (fun _ => .entered (.complete [rowOwnedBy (.int Value.longInteger)]) none)
      consumerCaller .builtIn).result = .error (.unwritable e) := by
  refine ⟨?_, ?_, ?_⟩
  · have law := assembled_iff_writable consumerCaller.party .consumer (.text "rs://a")
      [rowNamed (.text "Jo")]
    have readable := (law.2 (fun _ => .entered (.complete _) none) consumerCaller .builtIn
      (.complete _) (List.cons_ne_nil _ _)).1
    exact readable (by decide)
  · have law := assembled_iff_writable consumerCaller.party .consumer (.text "rs://a")
      [rowNamed (.text "Jo"), rowNamed (.bytes [0xFF])]
    have unreadable := (law.2 (fun _ => .entered (.complete _) none) consumerCaller .builtIn
      (.complete _) (List.cons_ne_nil _ _)).2
    obtain ⟨before, row, after, e, -, -, -, raised⟩ :=
      unreadable ⟨rowNamed (.bytes [0xFF]), by simp, by decide⟩
    exact ⟨e, raised⟩
  · have law := assembled_iff_writable consumerCaller.party .consumer (.text "rs://a")
      [rowOwnedBy (.int Value.longInteger)]
    have unreadable := (law.2 (fun _ => .entered (.complete _) none) consumerCaller .builtIn
      (.complete _) (List.cons_ne_nil _ _)).2
    obtain ⟨before, row, after, e, -, -, -, raised⟩ :=
      unreadable ⟨_, List.mem_singleton_self _, not_isWritable_longOwner⟩
    exact ⟨e, raised⟩

end Lookup

end AccessNotices
