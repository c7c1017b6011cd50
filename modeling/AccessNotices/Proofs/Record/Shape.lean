import AccessNotices.Proofs.Lookup.Coherence
import AccessNotices.Proofs.Lookup.Totality
/-!
What a record is of its row, exactly.

`Row.IsRecord` says it by the names of the columns: which ones there are and in which order, which
ones are as they were, and what stands in the three that the record has of its own. There is one
such record for every row whose parties can be written (`Row.IsRecord.unique`), and it is the one
that is assembled (`Row.assemble_eq_ok_iff_isRecord`). On mappings that can be changed, the row and
all others stay what they were (`Row.assembleAt_eq`). Main statement: `Row.assemble_exactly`.
-/

namespace AccessNotices

/-! ### Columns by name -/

namespace Perspective

/-- The columns that a record leaves out. -/
def omitted : Perspective → List String
  | consumer => ["ownerFirstName", "ownerLastName", "ownerId", "ownerEmailId", "consumerId"]
  | provider =>
    ["consumerFirstName", "consumerLastName", "consumerId", "consumerEmailId", "ownerId"]

/-- The columns of a row that the other party is taken from. -/
def partyColumns (p : Perspective) : List String :=
  [(View.of p).firstName, (View.of p).lastName, (View.of p).id, (View.of p).email]

/-- The columns that a record has of its own, in the order in which they are put. -/
def supplied (p : Perspective) : List String :=
  ["resourceServerURL", (View.of p).caller, (View.of p).counterpart]

/-- The columns that are left out, as they are specified. -/
theorem dropped_columns (p : Perspective) : p.columns.dropped = p.omitted := by
  cases p <;> rfl

/-- The columns that are put in, as they are specified. -/
theorem supplied_eq (p : Perspective) :
    p.supplied = [Row.resourceServerColumn, p.text, p.opposite.text] := by
  cases p <;> rfl

/-- No column of a record's own is one that it leaves out. -/
theorem notMem_supplied {p : Perspective} {name : String} (left : name ∈ p.omitted) :
    name ∉ p.supplied := by
  have disjoint : ∀ name ∈ p.omitted, name ∉ p.supplied := by
    cases p <;> decide
  exact disjoint name left

end Perspective

namespace Row

/-- The columns of a row that stay, in their order. -/
def staying (p : Perspective) (row : Row) : List String :=
  row.keys.filter fun name => name ∉ p.omitted

/-- What is stripped leaves the columns that stay. -/
theorem keys_strip_eq (p : Perspective) (row : Row) : (row.strip p).keys = row.staying p := by
  rw [keys_strip, p.dropped_columns, staying]
  simp

/-- Columns that are not a record's own are those of the row, but for the ones that it leaves
out. -/
theorem get?_recordOf_of_notMem {p : Perspective} {name : String} (foreign : name ∉ p.supplied)
    (url own other : Value) (row : Row) :
    (row.recordOf p url own other).get? name =
      if name ∈ p.omitted then none else row.get? name := by
  simp only [p.supplied_eq, List.mem_cons, List.not_mem_nil, or_false, not_or] at foreign
  obtain ⟨notServer, notOwn, notOther⟩ := foreign
  rw [get?_recordOf, if_neg notOther, if_neg notOwn, if_neg notServer, p.dropped_columns]
  simp

/-- What a column has as JSON: a null if there is no column. -/
inductive HasForm : Option Value → Json → Prop where
  | absent : HasForm none .null
  | present {v : Value} {j : Json} (form : v.toJson = .ok j) : HasForm (some v) j

/-- What a column has as an identifier: its plain text, and none if the column is missing or
null. -/
inductive HasIdentifier : Option Value → Option String → Prop where
  | absent : HasIdentifier none none
  | null : HasIdentifier (some .null) none
  | present {v : Value} (known : v ≠ .null) (short : v.isWritable = true) :
      HasIdentifier (some v) (some v.display)

/-- A column that is missing has the form of a null. -/
theorem hasForm_iff {given : Option Value} {j : Json} :
    HasForm given j ↔ (given.getD .null).toJson = .ok j := by
  constructor
  · intro h
    cases h with
    | absent => rfl
    | present form => exact form
  · intro form
    cases given with
    | none =>
      cases form
      exact .absent
    | some v => exact .present form

/-- A column has one form. -/
theorem HasForm.congr {given given' : Option Value} {j k : Json} (first : HasForm given j)
    (second : HasForm given' k) (same : given.getD .null = given'.getD .null) : j = k := by
  rw [hasForm_iff] at first second
  rw [same, second] at first
  exact (Except.ok.inj first).symm

theorem idText_eq_ok_iff {v : Value} (known : v ≠ .null) {id : Option String} :
    Party.idText v = .ok id ↔ v.isWritable = true ∧ id = some v.display := by
  rw [Party.idText_of_ne_null known, map_eq_ok_iff]
  simp only [Value.write_eq_ok_iff]
  constructor
  · rintro ⟨s, ⟨short, rfl⟩, rfl⟩
    exact ⟨short, rfl⟩
  · rintro ⟨short, rfl⟩
    exact ⟨_, ⟨short, rfl⟩, rfl⟩

/-- The identifier of a record is the plain text of what is given. -/
theorem hasIdentifier_iff {given : Option Value} {id : Option String} :
    HasIdentifier given id ↔ Party.idText (given.getD .null) = .ok id := by
  constructor
  · intro h
    cases h with
    | absent => rfl
    | null => rfl
    | present known short => exact (idText_eq_ok_iff known).mpr ⟨short, rfl⟩
  · intro text
    cases given with
    | none =>
      cases text
      exact .absent
    | some v =>
      by_cases known : v = .null
      · cases known
        cases text
        exact .null
      · obtain ⟨short, rfl⟩ := (idText_eq_ok_iff known).mp text
        exact .present known short

theorem HasIdentifier.congr {given given' : Option Value} {s t : Option String}
    (first : HasIdentifier given s) (second : HasIdentifier given' t)
    (same : given.getD .null = given'.getD .null) : s = t := by
  rw [hasIdentifier_iff] at first second
  rw [same, second] at first
  exact (Except.ok.inj first).symm

/-! ### Records -/

/-- The record of a row for a caller: the columns that stay, and behind them those of its own for
which the row has no place; every column that stays is as it was, unless it is one of these. -/
structure IsRecord (caller : Party) (p : Perspective) (url : Value) (row record : Row) :
    Prop where
  keys_eq : record.keys =
    row.staying p ++ p.supplied.filter fun name => name ∉ row.staying p
  staying_eq : ∀ name ∈ row.staying p, name ∉ p.supplied → record.get? name = row.get? name
  server_eq : record.get? "resourceServerURL" = some url
  caller_eq : ∃ own, caller.toJson = .ok own ∧
    record.get? (View.of p).caller = some own.toValue
  counterpart_eq : ∃ email firstName lastName id,
    HasForm (row.get? (View.of p).email) email ∧
    HasForm (row.get? (View.of p).firstName) firstName ∧
    HasForm (row.get? (View.of p).lastName) lastName ∧
    HasIdentifier (row.get? (View.of p).id) id ∧
    record.get? (View.of p).counterpart = some (.ofFields
      [("email", email.toValue),
       ("name", .ofFields [("firstName", firstName.toValue), ("lastName", lastName.toValue)]),
       ("id", Caller.textValue id)])

section TwoRecords

variable {p : Perspective} {caller caller₁ caller₂ : Party} {url url₁ url₂ : Value}
  {row row₁ row₂ record record₁ record₂ : Row}

/-- A column that is neither left out nor the record's own is that of the row. -/
theorem IsRecord.get?_eq (h : IsRecord caller p url row record) {name : String}
    (stays : name ∉ p.omitted) (foreign : name ∉ p.supplied) :
    record.get? name = row.get? name := by
  by_cases mem : name ∈ row.keys
  · exact h.staying_eq name (List.mem_filter.mpr ⟨mem, decide_eq_true stays⟩) foreign
  · have missing : name ∉ record.keys := by
      simp [h.keys_eq, staying, mem, foreign]
    rw [(record.get?_eq_none_iff name).mpr missing, (row.get?_eq_none_iff name).mpr mem]

/-- A record has none of the columns that it leaves out. -/
theorem IsRecord.get?_omitted (h : IsRecord caller p url row record) {name : String}
    (left : name ∈ p.omitted) : record.get? name = none := by
  have missing : name ∉ record.keys := by
    simp [h.keys_eq, staying, left, Perspective.notMem_supplied left]
  exact (record.get?_eq_none_iff name).mpr missing

/-- A caller stands in every record in the same way. -/
theorem IsRecord.caller_congr (first : IsRecord caller p url₁ row₁ record₁)
    (second : IsRecord caller p url₂ row₂ record₂) :
    record₁.get? (View.of p).caller = record₂.get? (View.of p).caller := by
  obtain ⟨own, form, found⟩ := first.caller_eq
  obtain ⟨own', form', found'⟩ := second.caller_eq
  cases form.symm.trans form'
  rw [found, found']

/-- The other party is the same if it is taken from the same; a column that is missing counts as
null. -/
theorem IsRecord.counterpart_congr (first : IsRecord caller₁ p url₁ row₁ record₁)
    (second : IsRecord caller₂ p url₂ row₂ record₂)
    (same : ∀ name ∈ p.partyColumns, row₁.column name = row₂.column name) :
    record₁.get? (View.of p).counterpart = record₂.get? (View.of p).counterpart := by
  simp only [Perspective.partyColumns, List.forall_mem_cons] at same
  obtain ⟨sameFirst, sameLast, sameId, sameEmail, -⟩ := same
  obtain ⟨email, firstName, lastName, id, emailForm, firstForm, lastForm, text, found⟩ :=
    first.counterpart_eq
  obtain ⟨email', firstName', lastName', id', emailForm', firstForm', lastForm', text', found'⟩ :=
    second.counterpart_eq
  rw [found, found', emailForm.congr emailForm' sameEmail, firstForm.congr firstForm' sameFirst,
    lastForm.congr lastForm' sameLast, text.congr text' sameId]

/-- What each column of a record depends on: the server on the server, the caller on the caller, the
other party on the columns that it is taken from, and any other column on the same column. -/
theorem IsRecord.get?_congr (first : IsRecord caller₁ p url₁ row₁ record₁)
    (second : IsRecord caller₂ p url₂ row₂ record₂) {name : String}
    (server : name = "resourceServerURL" → url₁ = url₂)
    (side : name = (View.of p).caller → caller₁ = caller₂)
    (party : name = (View.of p).counterpart →
      ∀ column ∈ p.partyColumns, row₁.column column = row₂.column column)
    (kept : name ∉ p.omitted → name ∉ p.supplied → row₁.get? name = row₂.get? name) :
    record₁.get? name = record₂.get? name := by
  by_cases own : name ∈ p.supplied
  · simp only [Perspective.supplied, List.mem_cons, List.not_mem_nil, or_false] at own
    rcases own with rfl | rfl | rfl
    · rw [first.server_eq, second.server_eq, server rfl]
    · cases side rfl
      exact first.caller_congr second
    · exact first.counterpart_congr second (party rfl)
  · by_cases left : name ∈ p.omitted
    · rw [first.get?_omitted left, second.get?_omitted left]
    · rw [first.get?_eq left own, second.get?_eq left own]
      exact kept left own

/-- A row has one record at most. -/
theorem IsRecord.unique (first : IsRecord caller p url row record₁)
    (second : IsRecord caller p url row record₂) : record₁ = record₂ := by
  apply OrderedMap.ext_get?
  · rw [first.keys_eq, second.keys_eq]
  · intro name
    exact first.get?_congr second (fun _ => rfl) (fun _ => rfl) (fun _ _ _ => rfl) (fun _ _ => rfl)

end TwoRecords

variable {caller : Party} {p : Perspective} {url : Value} {row record : Row}

/-- What is assembled from a row is its record. -/
theorem isRecord_of_assemble (assembled : row.assemble caller p url = .ok record) :
    IsRecord caller p url row record := by
  obtain ⟨own, other, written, counterpart, rfl⟩ := assemble_eq_ok_iff.mp assembled
  obtain ⟨email, firstName, lastName, id, emailForm, firstForm, lastForm, text, shape⟩ :=
    toValue_of_counterpartObject counterpart
  constructor
  · rw [keys_recordOf, keys_strip_eq, p.supplied_eq]
  · intro name stays foreign
    rw [staying, List.mem_filter] at stays
    rw [get?_recordOf_of_notMem foreign, if_neg (of_decide_eq_true stays.2)]
  · rw [get?_recordOf]
    cases p <;> rfl
  · refine ⟨own, written, ?_⟩
    rw [get?_recordOf]
    cases p <;> rfl
  · refine ⟨email, firstName, lastName, id, hasForm_iff.mpr ?_, hasForm_iff.mpr ?_,
      hasForm_iff.mpr ?_, hasIdentifier_iff.mpr ?_, ?_⟩
    · cases p <;> exact emailForm
    · cases p <;> exact firstForm
    · cases p <;> exact lastForm
    · cases p <;> exact text
    · rw [get?_recordOf, shape]
      cases p <;> rfl

/-- A row that has a record can be assembled, and this is what comes of it. -/
theorem assemble_eq_ok_iff_isRecord :
    row.assemble caller p url = .ok record ↔ IsRecord caller p url row record := by
  refine ⟨isRecord_of_assemble, fun isRecord => ?_⟩
  obtain ⟨own, written, -⟩ := isRecord.caller_eq
  obtain ⟨email, firstName, lastName, id, emailForm, firstForm, lastForm, text, -⟩ :=
    isRecord.counterpart_eq
  rw [hasForm_iff] at emailForm firstForm lastForm
  rw [hasIdentifier_iff] at text
  have counterpart : row.counterpartObject p =
      .ok (Party.objectOf email firstName lastName id) := by
    refine counterpartObject_eq_ok_iff.mpr ⟨id, ?_,
      Party.toJson_eq_ok_iff.mpr ⟨email, firstName, lastName, ?_, ?_, ?_, rfl⟩⟩
    · cases p <;> exact text
    · cases p <;> exact emailForm
    · cases p <;> exact firstForm
    · cases p <;> exact lastForm
  have assembled := assemble_of_ok written counterpart url
  rwa [← (isRecord_of_assemble assembled).unique isRecord]

end Row

/-! ### Mappings that can be changed -/

/-- What is assigned to the last mapping is kept from all others. -/
theorem Memory.assign_last (memory : Memory) (row : Row) (name : String) (v : Value) :
    assign (memory ++ [row]) memory.length name v = memory ++ [row.insert name v] := by
  induction memory with
  | nil => rfl
  | cons first rest ih => exact congrArg (first :: ·) ih

namespace Row

/-- The record is made beside what is there, and nothing that is there changes. -/
theorem assembleAt_eq {memory : Memory} {address : Nat} {row : Row}
    (stored : memory[address]? = some row) (caller : Party) (p : Perspective) (url : Value) :
    assembleAt caller p url memory address =
      (row.assemble caller p url).map fun record => (memory ++ [record], memory.length) := by
  rw [assembleAt, assemble, stored, Option.getD_some]
  simp only [Memory.allocate, Memory.assign_last]
  cases row.counterpart p with
  | error e => rfl
  | ok party =>
    cases caller.toJson with
    | error e => rfl
    | ok own =>
      simp only [bind, Except.bind]
      cases party.toJson <;> rfl

/-- The records of several mappings are made behind what is there, one after another. -/
theorem assembleAllAt_eq {memory : Memory} {addresses : List Nat} {rows : List Row}
    (stored : addresses.map (memory[·]?) = rows.map some) (caller : Party) (p : Perspective)
    (url : Value) :
    assembleAllAt caller p url memory addresses =
      (assembleAll caller p url rows).map fun records =>
        (memory ++ records, List.range' memory.length records.length) := by
  induction addresses generalizing memory rows with
  | nil =>
    cases rows with
    | nil => simp [assembleAllAt, assembleAll, pure, Except.pure, Except.map]
    | cons row rows => cases stored
  | cons address addresses ih =>
    cases rows with
    | nil => cases stored
    | cons row rows =>
      obtain ⟨first, rest⟩ := List.cons.inj stored
      rw [assembleAllAt, assembleAt_eq first, assembleAll_cons]
      cases row.assemble caller p url with
      | error e => rfl
      | ok record =>
        -- What was stored is still there when the record is put behind it.
        have kept : addresses.map ((memory ++ [record])[·]?) = rows.map some := by
          rw [← rest]
          refine List.map_congr_left fun a mem => List.getElem?_append_left ?_
          have here := List.mem_map_of_mem (f := (memory[·]?)) mem
          rw [rest] at here
          obtain ⟨r, -, found⟩ := List.mem_map.mp here
          exact (List.getElem?_eq_some_iff.mp found.symm).1
        have others := ih kept
        change (assembleAllAt caller p url (memory ++ [record]) addresses >>= fun made =>
          .ok (made.1, memory.length :: made.2)) = _
        rw [others]
        cases assembleAll caller p url rows with
        | error e => rfl
        | ok records => simp [bind, Except.bind, Except.map, List.range'_succ]

/-! ### The shape of records -/

/-- In a list of rows, each record stands in the place of its row. -/
theorem getElem?_of_assembleAll {caller : Party} {p : Perspective} {url : Value}
    {rows records : List Row} (assembled : assembleAll caller p url rows = .ok records) {i : Nat}
    {row record : Row} (at_i : rows[i]? = some row)
    (single : row.assemble caller p url = .ok record) : records[i]? = some record := by
  have each := assembleAll_eq_ok_iff.mp assembled
  clear assembled
  induction each generalizing i with
  | nil => cases at_i
  | cons first _ ih =>
    cases i with
    | zero =>
      cases at_i
      cases first.symm.trans single
      rfl
    | succ i => exact ih at_i

/-- **The shape of a record.** A row whose parties can be written has exactly one record, and it is
the one that is assembled: alone, and in its place in every list of rows that is assembled. The
record is a mapping of its own; the row, and every other mapping, stays as it was. -/
theorem assemble_exactly (caller : Party) (p : Perspective) (url : Value) (row : Row)
    (encodable : caller.IsWritable ∧ row.IsWritable p) :
    ∃ record, row.assemble caller p url = .ok record ∧
      (∀ r, IsRecord caller p url row r ↔ r = record) ∧
      (∀ (rows records : List Row) (i : Nat), assembleAll caller p url rows = .ok records →
        rows[i]? = some row → records[i]? = some record) ∧
      ∀ (memory : Memory) (address : Nat), memory[address]? = some row →
        assembleAt caller p url memory address = .ok (memory ++ [record], memory.length) := by
  obtain ⟨record, assembled⟩ := (exists_assemble_iff row).mpr encodable
  refine ⟨record, assembled, fun r => ?_, fun rows records i all at_i => ?_,
    fun memory address stored => ?_⟩
  · rw [← assemble_eq_ok_iff_isRecord, assembled, Except.ok.injEq, eq_comm]
  · exact getElem?_of_assembleAll all at_i assembled
  · rw [assembleAt_eq stored, assembled]
    rfl

/-- A row that has a column named as one of its record's own, columns of both parties, and none for
the other party's email. -/
def crowdedRow : Row :=
  .ofList
    [("provider", .text "nobody"), ("ownerFirstName", .bytes [0x4A, 0x6F]),
     ("status", .text "PENDING"), ("ownerId", .int 7), ("consumerFirstName", .text "Ana"),
     ("consumerId", .text "C9"), ("ownerLastName", .null)]

theorem isWritable_crowdedRow :
    consumerCaller.party.IsWritable ∧ crowdedRow.IsWritable .consumer := by
  constructor
  · exact (Party.exists_toJson_iff _).mp ⟨_, Party.toJson_caller consumerCaller⟩
  · exact ⟨Value.isWritableInt_of_lt (by decide), by decide⟩

/-- The other party stands where the row had the column of that name, and the columns of the
caller's own side stay. -/
theorem assemble_crowdedRow :
    (consumerCaller.party.IsWritable ∧ crowdedRow.IsWritable .consumer) ∧
    ∃ record, crowdedRow.assemble consumerCaller.party .consumer (.text "rs://a") = .ok record ∧
      record.keys =
        ["provider", "status", "consumerFirstName", "resourceServerURL", "consumer"] ∧
      record.get? "provider" = some (.ofFields
        [("email", .null),
         ("name", .ofFields [("firstName", .text "Jo"), ("lastName", .null)]),
         ("id", .text "7")]) := by
  obtain ⟨record, assembled, shape, -⟩ := assemble_exactly consumerCaller.party .consumer
    (.text "rs://a") crowdedRow isWritable_crowdedRow
  have isRecord := (shape record).mpr rfl
  refine ⟨isWritable_crowdedRow, record, assembled, isRecord.keys_eq.trans (by decide), ?_⟩
  obtain ⟨email, firstName, lastName, id, emailForm, firstForm, lastForm, text, found⟩ :=
    isRecord.counterpart_eq
  have known : (Value.int 7) ≠ .null := nofun
  have short : (Value.int 7).isWritable = true := Value.isWritableInt_of_lt (by decide)
  rw [emailForm.congr .absent rfl, firstForm.congr (.present rfl) rfl,
    lastForm.congr (.present rfl) rfl, text.congr (.present known short) rfl] at found
  exact found

end Row

end AccessNotices
