import AccessNotices.Caller
import AccessNotices.Proofs.OrderedMap
import AccessNotices.Proofs.Value.Encodable
import AccessNotices.Record
/-!
When rows can be assembled into records, and what comes of it.

A record carries both parties as JSON, so a row can be assembled exactly when its other party's
names and email have JSON forms and the identifier a plain text (`assemble_isOk_iff`); the caller's
own texts always have. Rows are assembled one by one and in order (`assembleAll_eq_ok_iff`). Of an
assembled record it is known which columns it has (`keys_recordOf`) and what is in them
(`get?_recordOf`).
-/

namespace AccessNotices

/-! ### Parties -/

namespace Party

theorem idText_of_ne_null {v : Value} (known : v ≠ .null) : idText v = v.write.map some := by
  cases v with
  | null => exact absurd rfl known
  | _ => rfl

/-- An identifier has a text exactly when no integer in it is too long. -/
theorem idText_isOk_iff (v : Value) : (∃ id, idText v = .ok id) ↔ v.isWritable = true := by
  by_cases known : v = .null
  · subst known
    simp [idText, Value.isWritable]
  · rw [idText_of_ne_null known, ← Value.write_isOk_iff]
    simp [map_eq_ok_iff]

/-- A party has the names and the email that are given, and the text of the identifier. -/
theorem of_eq_ok_iff {firstName lastName id email : Value} {party : Party} :
    Party.of firstName lastName id email = .ok party ↔
      ∃ text, idText id = .ok text ∧ party = ⟨email, firstName, lastName, text⟩ := by
  rw [of, map_eq_ok_iff]
  simp only [eq_comm]

/-- The object of a party, from the forms of its email and of its names. -/
def objectOf (email firstName lastName : Json) (id : Option String) : Json :=
  .object
    [("email", email),
     ("name", .object [("firstName", firstName), ("lastName", lastName)]),
     ("id", idJson id)]

/-- What a party is written as. -/
theorem toJson_eq_ok_iff {party : Party} {j : Json} :
    party.toJson = .ok j ↔ ∃ email firstName lastName, party.email.toJson = .ok email ∧
      party.firstName.toJson = .ok firstName ∧ party.lastName.toJson = .ok lastName ∧
      j = objectOf email firstName lastName party.id := by
  simp only [toJson, bind_eq_ok_iff]
  constructor
  · rintro ⟨email, emailForm, firstName, firstForm, lastName, lastForm, whole⟩
    cases whole
    exact ⟨email, firstName, lastName, emailForm, firstForm, lastForm, rfl⟩
  · rintro ⟨email, firstName, lastName, emailForm, firstForm, lastForm, rfl⟩
    exact ⟨email, emailForm, firstName, firstForm, lastName, lastForm, rfl⟩

/-- A party can be written exactly when its email and its names can. -/
theorem toJson_isOk_iff (party : Party) :
    (∃ j, party.toJson = .ok j) ↔
      (∃ j, party.email.toJson = .ok j) ∧ (∃ j, party.firstName.toJson = .ok j) ∧
        ∃ j, party.lastName.toJson = .ok j := by
  simp only [toJson_eq_ok_iff]
  constructor
  · rintro ⟨j, email, firstName, lastName, emailForm, firstForm, lastForm, -⟩
    exact ⟨⟨email, emailForm⟩, ⟨firstName, firstForm⟩, lastName, lastForm⟩
  · rintro ⟨⟨email, emailForm⟩, ⟨firstName, firstForm⟩, lastName, lastForm⟩
    exact ⟨_, email, firstName, lastName, emailForm, firstForm, lastForm, rfl⟩

def textJson : Option String → Json
  | some s => .string s
  | none => .null

theorem toJson_textValue (s : Option String) :
    (Caller.textValue s).toJson = .ok (textJson s) := by
  cases s <;> rfl

/-- A party that is known by texts only, as an object. -/
def objectOfTexts (email firstName lastName id : Option String) : Json :=
  .object
    [("email", textJson email),
     ("name", .object [("firstName", textJson firstName), ("lastName", textJson lastName)]),
     ("id", textJson id)]

/-- A party that is known by texts can always be written. -/
theorem toJson_of_texts (email firstName lastName : Option String) (id : Option String) :
    Party.toJson ⟨Caller.textValue email, Caller.textValue firstName, Caller.textValue lastName,
      id⟩ = .ok (objectOfTexts email firstName lastName id) := by
  rw [toJson, toJson_textValue, toJson_textValue, toJson_textValue]
  cases id <;> rfl

/-- The value of a party that is known by texts only. -/
def identity (email firstName lastName : Option String) (id : String) : Value :=
  .ofFields
    [("email", Caller.textValue email),
     ("name", .ofFields
       [("firstName", Caller.textValue firstName), ("lastName", Caller.textValue lastName)]),
     ("id", .text id)]

theorem toValue_objectOfTexts (email firstName lastName : Option String) (id : String) :
    (objectOfTexts email firstName lastName (some id)).toValue =
      identity email firstName lastName id := by
  cases email <;> cases firstName <;> cases lastName <;> rfl

/-- A caller can always be written. -/
theorem toJson_caller (c : Caller) :
    c.party.toJson = .ok (objectOfTexts c.email c.firstName c.lastName (some c.id.text)) :=
  toJson_of_texts c.email c.firstName c.lastName (some c.id.text)

end Party

/-! ### Rows -/

/-- The columns of the other party that a record carries as JSON; of the identifier it carries the
plain text. -/
def CounterpartColumns.written (c : CounterpartColumns) : List String :=
  [c.email, c.firstName, c.lastName]

namespace Row

/-- The other party of a row can be written: no integer in its identifier is too long, its email and
its names can be spelled, and they have no more levels than a JSON form may have. -/
def IsWritable (p : Perspective) (row : Row) : Prop :=
  (row.column p.columns.id).isWritable = true ∧
  ∀ name ∈ p.columns.written,
    (row.column name).isSpellable = true ∧ (row.column name).levels ≤ Value.levelLimit

instance (p : Perspective) (row : Row) : Decidable (row.IsWritable p) :=
  inferInstanceAs (Decidable ((row.column p.columns.id).isWritable = true ∧
    ∀ name ∈ p.columns.written,
      (row.column name).isSpellable = true ∧ (row.column name).levels ≤ Value.levelLimit))

/-- The object of the other party of a row. -/
def counterpartObject (row : Row) (p : Perspective) : Except WritingError Json := do
  let party ← row.counterpart p
  party.toJson

/-- The other party is written as it is taken from its columns. -/
theorem counterpartObject_eq_ok_iff {p : Perspective} {row : Row} {other : Json} :
    row.counterpartObject p = .ok other ↔
      ∃ id, Party.idText (row.column p.columns.id) = .ok id ∧
        Party.toJson ⟨row.column p.columns.email, row.column p.columns.firstName,
          row.column p.columns.lastName, id⟩ = .ok other := by
  simp only [counterpartObject, counterpart, bind_eq_ok_iff, Party.of_eq_ok_iff]
  constructor
  · rintro ⟨party, ⟨id, text, rfl⟩, written⟩
    exact ⟨id, text, written⟩
  · rintro ⟨id, text, written⟩
    exact ⟨_, ⟨id, text, rfl⟩, written⟩

/-- The other party of a row has an object exactly when it can be written. -/
theorem counterpartObject_isOk_iff (p : Perspective) (row : Row) :
    (∃ j, row.counterpartObject p = .ok j) ↔ row.IsWritable p := by
  have fields (id : Option String) : (∃ j, Party.toJson ⟨row.column p.columns.email,
      row.column p.columns.firstName, row.column p.columns.lastName, id⟩ = .ok j) ↔
        ∀ name ∈ p.columns.written, (row.column name).isSpellable = true ∧
          (row.column name).levels ≤ Value.levelLimit := by
    rw [Party.toJson_isOk_iff]
    simp only [Value.toJson_isOk_iff, CounterpartColumns.written, List.forall_mem_cons]
    simp
  rw [IsWritable, ← Party.idText_isOk_iff]
  simp only [counterpartObject_eq_ok_iff]
  constructor
  · rintro ⟨other, id, text, written⟩
    exact ⟨⟨id, text⟩, (fields id).mp ⟨other, written⟩⟩
  · rintro ⟨⟨id, text⟩, writable⟩
    obtain ⟨other, written⟩ := (fields id).mpr writable
    exact ⟨other, id, text, written⟩

/-- The record of a row, from the objects of the two parties. -/
def recordOf (p : Perspective) (url own other : Value) (row : Row) : Row :=
  (((row.strip p).insert resourceServerColumn url).insert p.text own).insert p.opposite.text other

/-- Stripping keeps the order of the columns. -/
theorem keys_strip (p : Perspective) (row : Row) :
    (row.strip p).keys = row.keys.filter fun name => !p.columns.dropped.contains name :=
  OrderedMap.keys_filterKeys row _

/-- The columns of a record: those that are kept, and behind them the resource server and the two
parties, unless they have a place among the kept ones. -/
theorem keys_recordOf (p : Perspective) (url own other : Value) (row : Row) :
    (row.recordOf p url own other).keys =
      (row.strip p).keys ++ [resourceServerColumn, p.text, p.opposite.text].filter fun name =>
        name ∉ (row.strip p).keys := by
  have distinct : [resourceServerColumn, p.text, p.opposite.text].Nodup := by
    cases p <;> decide
  exact OrderedMap.keys_foldl_insert
    [(resourceServerColumn, url), (p.text, own), (p.opposite.text, other)] (row.strip p) distinct

/-- If the row has none of the three, they come behind the columns that are kept. -/
theorem keys_recordOf_of_new {p : Perspective} {row : Row} (url own other : Value)
    (new : ∀ name ∈ [resourceServerColumn, p.text, p.opposite.text], name ∉ row.keys) :
    (row.recordOf p url own other).keys =
      row.keys.filter (fun name => !p.columns.dropped.contains name) ++
        [resourceServerColumn, p.text, p.opposite.text] := by
  have all : [resourceServerColumn, p.text, p.opposite.text].filter
      (fun name => name ∉ (row.strip p).keys) = [resourceServerColumn, p.text, p.opposite.text] := by
    refine List.filter_eq_self.mpr fun name mem => ?_
    have missing : name ∉ row.keys := new name mem
    simp [keys_strip, missing]
  rw [keys_recordOf, all, keys_strip]

/-- What a record has in a column. -/
theorem get?_recordOf (p : Perspective) (url own other : Value) (row : Row) (name : String) :
    (row.recordOf p url own other).get? name =
      if name = p.opposite.text then some other
      else if name = p.text then some own
      else if name = resourceServerColumn then some url
      else if p.columns.dropped.contains name then none
      else row.get? name := by
  rw [recordOf, OrderedMap.get?_insert, OrderedMap.get?_insert, OrderedMap.get?_insert, strip,
    OrderedMap.get?_filterKeys]
  cases p.columns.dropped.contains name <;> rfl

/-- A row is assembled from what its two parties are written as. -/
theorem assemble_eq_ok_iff {caller : Party} {p : Perspective} {url : Value} {row record : Row} :
    row.assemble caller p url = .ok record ↔
      ∃ own other, caller.toJson = .ok own ∧ row.counterpartObject p = .ok other ∧
        record = row.recordOf p url own.toValue other.toValue := by
  simp only [assemble, counterpartObject, bind_eq_ok_iff]
  constructor
  · rintro ⟨party, counterpart, own, written, other, object, whole⟩
    cases whole
    exact ⟨own, other, written, ⟨party, counterpart, object⟩, rfl⟩
  · rintro ⟨own, other, written, ⟨party, counterpart, object⟩, rfl⟩
    exact ⟨party, counterpart, own, written, other, object, rfl⟩

/-- A row with two parties that can be written can be assembled. -/
theorem assemble_of_ok {caller : Party} {p : Perspective} {row : Row} {own other : Json}
    (written : caller.toJson = .ok own) (counterpart : row.counterpartObject p = .ok other)
    (url : Value) :
    row.assemble caller p url = .ok (row.recordOf p url own.toValue other.toValue) :=
  assemble_eq_ok_iff.mpr ⟨own, other, written, counterpart, rfl⟩

/-- A row can be assembled exactly when both of its parties can be written. -/
theorem assemble_isOk_iff (caller : Party) (p : Perspective) (url : Value) (row : Row) :
    (∃ record, row.assemble caller p url = .ok record) ↔
      (∃ j, caller.toJson = .ok j) ∧ row.IsWritable p := by
  simp only [assemble_eq_ok_iff, ← counterpartObject_isOk_iff]
  constructor
  · rintro ⟨record, own, other, written, counterpart, -⟩
    exact ⟨⟨own, written⟩, other, counterpart⟩
  · rintro ⟨⟨own, written⟩, other, counterpart⟩
    exact ⟨_, own, other, written, counterpart, rfl⟩

section All

variable {caller : Party} {p : Perspective} {url : Value}

theorem assembleAll_cons (row : Row) (rows : List Row) :
    assembleAll caller p url (row :: rows) = (do
      let record ← row.assemble caller p url
      let records ← assembleAll caller p url rows
      .ok (record :: records)) := by
  rw [assembleAll, List.mapM_cons]
  rfl

/-- Rows are assembled one by one, in their order. -/
theorem assembleAll_eq_ok_iff {rows records : List Row} :
    assembleAll caller p url rows = .ok records ↔
      List.Forall₂ (fun row record => row.assemble caller p url = .ok record) rows records :=
  mapM_eq_ok_iff

/-- All rows can be assembled if each of them can. -/
theorem exists_assembleAll {rows : List Row}
    (each : ∀ row ∈ rows, ∃ record, row.assemble caller p url = .ok record) :
    ∃ records, assembleAll caller p url rows = .ok records :=
  exists_mapM_iff.mpr each

end All

end Row

end AccessNotices
