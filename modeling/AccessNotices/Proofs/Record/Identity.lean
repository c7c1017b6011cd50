import AccessNotices.Proofs.Envelope
import AccessNotices.Proofs.Lookup.Totality
import AccessNotices.Proofs.Value.Plain
/-!
Identity objects that are read back and written again.

The object of a party is plain, and so nothing in it changes when it is read as a party and written
once more, whichever keys its names have (`Party.ofValue_objectUnder`). Records carry two such
objects, which the object of an envelope has as they are (`Row.exists_identities`), if it has room
for them. Main statement: `Party.object_settles`.
-/

namespace AccessNotices

namespace Party

variable {email firstName lastName : Json} {id : Option String}

/-! ### Objects that are read -/

/-- The object of a party, with two given keys for its names. -/
def objectUnder (firstKey lastKey : String) (email firstName lastName : Json)
    (id : Option String) : Json :=
  .object
    [("email", email),
     ("name", .object [(firstKey, firstName), (lastKey, lastName)]),
     ("id", idJson id)]

/-- The keys that the names of a party may have. -/
structure AreNameKeys (firstKey lastKey : String) : Prop where
  first : firstKey = "firstName" ∨ firstKey = "first_name"
  last : lastKey = "lastName" ∨ lastKey = "last_name"

/-- An object is read as the party of its members. -/
theorem ofValue_objectUnder {firstKey lastKey : String} (keys : AreNameKeys firstKey lastKey) :
    ofValue (objectUnder firstKey lastKey email firstName lastName id).toValue =
      .ok ⟨email.toValue, firstName.toValue, lastName.toValue, id⟩ := by
  obtain ⟨rfl | rfl, rfl | rfl⟩ := keys <;> cases id <;> rfl

/-- No object in the object of a party has two members of one name. -/
theorem isProper_of_toJson {party : Party} {object : Json} (written : party.toJson = .ok object) :
    object.IsProper := by
  obtain ⟨email, firstName, lastName, emailForm, firstForm, lastForm, rfl⟩ :=
    toJson_eq_ok_iff.mp written
  exact isProper_objectOf (Value.isProper_of_toJson emailForm) (Value.isProper_of_toJson firstForm)
    (Value.isProper_of_toJson lastForm)

end Party

/-! ### Objects inside records -/

namespace Row

variable {caller : Party} {p : Perspective} {url : Value} {row record : Row} {item : Json}

/-- Where a row has something in a column, its object has the form of it. -/
theorem exists_member_of_toJson {name : String} {v : Value} (object : record.toJson = .ok item)
    (found : record.get? name = some v) : ∃ j, v.toJson = .ok j ∧ item.member? name = some j := by
  obtain ⟨members, whole, rfl⟩ := map_eq_ok_iff.mp object
  have each := mapM_eq_ok_iff.mp whole
  rw [OrderedMap.get?] at found
  rw [Json.member?]
  clear whole object
  -- Entries and members go side by side under the same names, up to the one that is looked for.
  generalize record.entries = entries at each found
  induction each with
  | nil => cases found
  | @cons e m entries members first _ ih =>
    obtain ⟨j, form, rfl⟩ := map_eq_ok_iff.mp first
    rw [List.lookup_cons] at found ⊢
    cases here : name == e.1 with
    | true =>
      rw [here] at found
      cases found
      exact ⟨j, form, rfl⟩
    | false =>
      rw [here] at found
      exact ih found

/-- The record has the objects of both parties in their columns, and so has the item. -/
structure KeepsIdentities (own other : Json) (p : Perspective) (record : Row) (item : Json) :
    Prop where
  own_column : record.get? p.text = some own.toValue
  other_column : record.get? p.opposite.text = some other.toValue
  own_member : item.member? p.text = some own
  other_member : item.member? p.opposite.text = some other

/-- An object in a record that is written again stays as it is. -/
theorem member?_of_toJson {name : String} {party : Party} {own : Json}
    (written : party.toJson = .ok own) (found : record.get? name = some own.toValue)
    (object : record.toJson = .ok item) : item.member? name = some own := by
  obtain ⟨j, form, member⟩ := exists_member_of_toJson object found
  have bounded := ((Value.toJson_isOk_iff _).mp ⟨j, form⟩).2
  have same := Value.toJsonWithin_toValue (Party.isProper_of_toJson written) bounded
  rw [member, Except.ok.inj (form.symm.trans same)]

/-- The object of a record has the identities that the row was assembled with. -/
theorem exists_identities (assembled : row.assemble caller p url = .ok record)
    (object : record.toJson = .ok item) :
    ∃ own other, caller.toJson = .ok own ∧ row.counterpartObject p = .ok other ∧
      KeepsIdentities own other p record item := by
  obtain ⟨own, other, written, counterpart, rfl⟩ := assemble_eq_ok_iff.mp assembled
  have ownColumn : (row.recordOf p url own.toValue other.toValue).get? p.text =
      some own.toValue := by
    rw [get?_recordOf]
    cases p <;> rfl
  have otherColumn : (row.recordOf p url own.toValue other.toValue).get? p.opposite.text =
      some other.toValue := by
    rw [get?_recordOf, if_pos rfl]
  obtain ⟨party, -, otherWritten⟩ := bind_eq_ok_iff.mp counterpart
  exact ⟨own, other, written, counterpart, ownColumn, otherColumn,
    member?_of_toJson written ownColumn object, member?_of_toJson otherWritten otherColumn object⟩

end Row

namespace Envelope

/-- A success can be written exactly when everything in its records can. -/
theorem exists_toJson_success_iff {records : List Row} :
    (∃ payload, (success records).toJson = .ok payload) ↔
      ∀ record ∈ records, ∀ e ∈ record.entries,
        e.2.isSpellable = true ∧ e.2.levels ≤ Value.levelLimit := by
  have objects : (∃ items, records.mapM Row.toJson = .ok items) ↔ _ := exists_mapM_iff
  simp only [Row.exists_toJson_iff, Value.toJson_isOk_iff] at objects
  simp only [← objects, toJson_success_eq_ok_iff]
  constructor
  · rintro ⟨_, items, whole, -⟩
    exact ⟨items, whole⟩
  · rintro ⟨items, whole⟩
    exact ⟨_, items, whole, rfl⟩

end Envelope

/-! ### Main statement -/

namespace Party

/-- What is given can be made a party that can be written: no integer in the identifier is too long,
and the names and the email have JSON forms. -/
theorem exists_object_iff {firstName lastName id email : Value} :
    (∃ party object, Party.of firstName lastName id email = .ok party ∧
      party.toJson = .ok object) ↔
      id.isWritable = true ∧ ∀ v ∈ [email, firstName, lastName],
        v.isSpellable = true ∧ v.levels ≤ Value.levelLimit := by
  rw [← idText_isOk_iff]
  constructor
  · rintro ⟨party, object, made, written⟩
    obtain ⟨text, known, rfl⟩ := of_eq_ok_iff.mp made
    exact ⟨⟨text, known⟩, (exists_toJson_iff _).mp ⟨object, written⟩⟩
  · rintro ⟨⟨text, known⟩, writable⟩
    obtain ⟨object, written⟩ :=
      (exists_toJson_iff ⟨email, firstName, lastName, text⟩).mpr writable
    exact ⟨_, object, of_eq_ok_iff.mpr ⟨text, known, rfl⟩, written⟩

/-- **Identity objects settle.** What is given can be made a party with an object exactly when no
integer in the identifier is too long to be written, and the names and the email can be spelled and
have no more levels than a JSON form may have. Then everything in the object is plain. It can be
read as a party under either key of each name, and that party has the same object; it is the same
party if the names and the email are plain. A success that is written has for each of its records
the two identity objects that the record was assembled with; and it can be written exactly when
every column of a record can be spelled and has no more levels than a JSON form may have. -/
theorem object_settles (firstName lastName id email : Value) :
    ((∃ party object, Party.of firstName lastName id email = .ok party ∧
        party.toJson = .ok object) ↔
      id.isWritable = true ∧ ∀ v ∈ [email, firstName, lastName],
        v.isSpellable = true ∧ v.levels ≤ Value.levelLimit) ∧
    (∀ party object, Party.of firstName lastName id email = .ok party →
      party.toJson = .ok object → idText id = .ok party.id ∧ object.toValue.IsPlain ∧
      ∃ mail first last : Json, object = objectOf mail first last party.id ∧
        ∀ firstKey lastKey, AreNameKeys firstKey lastKey →
          ∃ again, ofValue (objectUnder firstKey lastKey mail first last party.id).toValue =
              .ok again ∧
            again.toJson = .ok object ∧
            (email.IsPlain → firstName.IsPlain → lastName.IsPlain → again = party)) ∧
    (∀ (caller : Party) (p : Perspective) (url : Value) (rows records : List Row) (payload : Json),
      Row.assembleAll caller p url rows = .ok records →
      (Envelope.success records).toJson = .ok payload →
      ∃ items, payload = Envelope.successObject items ∧
        List.Forall₂ (fun record item => ∃ own other, caller.toJson = .ok own ∧
          (∃ row ∈ rows, row.counterpartObject p = .ok other) ∧
          Row.KeepsIdentities own other p record item) records items) ∧
    ∀ records : List Row, (∃ payload, (Envelope.success records).toJson = .ok payload) ↔
      ∀ record ∈ records, ∀ e ∈ record.entries,
        e.2.isSpellable = true ∧ e.2.levels ≤ Value.levelLimit := by
  refine ⟨exists_object_iff, ?_, ?_, fun records => Envelope.exists_toJson_success_iff⟩
  · intro party object made written
    obtain ⟨text, known, rfl⟩ := of_eq_ok_iff.mp made
    refine ⟨known, Value.isPlain_toValue (isProper_of_toJson written), ?_⟩
    obtain ⟨mail, first, last, mailForm, firstForm, lastForm, rfl⟩ := toJson_eq_ok_iff.mp written
    refine ⟨mail, first, last, rfl, ?_⟩
    intro firstKey lastKey keys
    refine ⟨_, ofValue_objectUnder keys, ?_, ?_⟩
    · exact toJson_eq_ok_iff.mpr ⟨mail, first, last, Value.toJson_toValue mailForm,
        Value.toJson_toValue firstForm, Value.toJson_toValue lastForm, rfl⟩
    · intro plainEmail plainFirst plainLast
      rw [Value.eq_toValue_of_isPlain plainEmail mailForm,
        Value.eq_toValue_of_isPlain plainFirst firstForm,
        Value.eq_toValue_of_isPlain plainLast lastForm]
  · intro caller p url rows records payload assembled written
    obtain ⟨items, whole, rfl⟩ := Envelope.toJson_success_eq_ok_iff.mp written
    refine ⟨items, rfl, ?_⟩
    have each := mapM_eq_ok_iff.mp whole
    refine List.forall₂_iff_zip.mpr ⟨each.length_eq, fun {record item} pair => ?_⟩
    have object : record.toJson = .ok item := (List.forall₂_iff_zip.mp each).2 pair
    obtain ⟨row, mem, single⟩ := exists_of_mem_mapM assembled (List.of_mem_zip pair).1
    obtain ⟨own, other, ownWritten, otherWritten, kept⟩ := Row.exists_identities single object
    exact ⟨own, other, ownWritten, ⟨row, mem, otherWritten⟩, kept⟩

/-- A first name in parts that JSON has not. -/
def mixedName : Value :=
  .list [.float .nan, .bytes [0x4A, 0x6F], .uuid consumerCaller.id.uuid]

end Party

namespace Lookup

theorem isPlain_nested (n : Nat) : (nested n).IsPlain := by
  induction n with
  | zero => exact .null
  | succ n ih => exact .list (List.forall_mem_singleton.mpr ih)

theorem isSpellable_nested (n : Nat) : (nested n).isSpellable = true := by
  induction n with
  | zero => rfl
  | succ n ih => exact (Value.areSpellable_iff _).mpr (List.forall_mem_singleton.mpr ih)

/-- A name inside as many lists as it may be has a record, but there the name is inside two objects
more. -/
theorem exists_record_of_deepestName :
    ∃ record, (rowNamed (nested 254)).assemble consumerCaller.party .consumer (.text "rs://a") =
        .ok record ∧
      ¬ ∀ e ∈ record.entries, e.2.isSpellable = true ∧ e.2.levels ≤ Value.levelLimit := by
  have writable : (rowNamed (nested 254)).IsWritable .consumer := by
    refine ⟨rfl, List.forall_mem_cons.mpr ⟨by decide, List.forall_mem_cons.mpr ⟨?_, by decide⟩⟩⟩
    exact ⟨isSpellable_nested 254, Nat.le_of_eq (levels_nested 254)⟩
  obtain ⟨record, assembled⟩ := (Row.assemble_isOk_iff consumerCaller.party .consumer
    (.text "rs://a") _).mpr ⟨⟨_, Party.toJson_caller consumerCaller⟩, writable⟩
  refine ⟨record, assembled, fun fits => ?_⟩
  obtain ⟨own, other, -, counterpart, rfl⟩ := Row.assemble_eq_ok_iff.mp assembled
  obtain ⟨-, -, ⟨-, otherFits⟩, -⟩ := (Row.forall_recordOf_iff
    (fun v => v.isSpellable = true ∧ v.levels ≤ Value.levelLimit) _ _ _).mp fits
  obtain ⟨id, -, object⟩ := Row.counterpartObject_eq_ok_iff.mp counterpart
  obtain ⟨email, first, last, -, firstForm, -, rfl⟩ := Party.toJson_eq_ok_iff.mp object
  have name : first.toValue = nested 254 :=
    Value.eq_toValue_of_isPlain (isPlain_nested 254) firstForm
  obtain ⟨-, -, firstFits, -⟩ := Party.levels_objectOf_le_iff.mp otherFits
  rw [name, levels_nested] at firstFits
  exact absurd firstFits (by decide)

end Lookup

namespace Party

/-- The object of a party with a name in such parts is read as a party that has the same object, and
a record with a name that is a byte string keeps its identities when it is written. A name inside
three hundred lists has no object. Inside as many as it may be it has a record, with which no
success can be written. -/
theorem object_settles_of_mixedName :
    (∃ made object again, Party.of mixedName (.text "Doe") (.int 7) .null = .ok made ∧
      made.toJson = .ok object ∧ object.toValue.IsPlain ∧ ofValue object.toValue = .ok again ∧
      again.toJson = .ok object) ∧
    (∃ record payload item own other,
      (Lookup.rowNamed (.bytes [0x4A, 0x6F])).assemble consumerCaller.party .consumer
        (.text "rs://a") = .ok record ∧
      (Envelope.success [record]).toJson = .ok payload ∧
      payload = Envelope.successObject [item] ∧
      Row.KeepsIdentities own other .consumer record item) ∧
    (¬ ∃ made object, Party.of (Lookup.nested 300) .null .null .null = .ok made ∧
      made.toJson = .ok object) ∧
    ∃ record, (Lookup.rowNamed (Lookup.nested 254)).assemble consumerCaller.party .consumer
        (.text "rs://a") = .ok record ∧
      ∀ payload, (Envelope.success [record]).toJson ≠ .ok payload := by
  obtain ⟨exactly, settles, envelope, written⟩ :=
    object_settles mixedName (.text "Doe") (.int 7) .null
  refine ⟨?_, ?_, ?_, ?_⟩
  · have short : Value.isWritable (.int 7) = true := Value.isWritableInt_of_lt (by decide)
    obtain ⟨made, object, ofParts, whole⟩ := exactly.mpr ⟨short, by decide⟩
    obtain ⟨-, plain, mail, first, last, rfl, read⟩ := settles made object ofParts whole
    obtain ⟨again, given, same, -⟩ := read "firstName" "lastName" ⟨.inl rfl, .inl rfl⟩
    exact ⟨made, _, again, ofParts, whole, plain, given, same⟩
  · have encodable : (Lookup.rowNamed (.bytes [0x4A, 0x6F])).IsEncodable .consumer := by
      constructor
      · intro e mem _
        rcases List.mem_pair.mp mem with rfl | rfl <;> rfl
      · intro e mem _
        rcases List.mem_pair.mp mem with rfl | rfl
        · exact ⟨.string "PENDING", rfl, by decide⟩
        · exact ⟨.string "Jo", rfl, by decide⟩
    obtain ⟨record, j, assembled, object, -⟩ := encodable.exists_object consumerCaller "rs://a"
    have fits : ∀ r ∈ [record], ∀ e ∈ r.entries,
        e.2.isSpellable = true ∧ e.2.levels ≤ Value.levelLimit := by
      rw [List.forall_mem_singleton]
      intro e mem
      exact (Value.toJson_isOk_iff e.2).mp ((Row.exists_toJson_iff record).mp ⟨j, object⟩ e mem)
    obtain ⟨payload, whole⟩ := (written [record]).mpr fits
    have all : Row.assembleAll consumerCaller.party .consumer (.text "rs://a")
        [Lookup.rowNamed (.bytes [0x4A, 0x6F])] = .ok [record] :=
      Row.assembleAll_eq_ok_iff.mpr (.cons assembled .nil)
    obtain ⟨items, same, each⟩ := envelope _ _ _ _ _ payload all whole
    obtain ⟨item, rest, ⟨own, other, -, -, kept⟩, none, rfl⟩ := List.forall₂_cons_left_iff.mp each
    cases none
    exact ⟨record, payload, item, own, other, assembled, whole, same, kept⟩
  · intro made
    have bounded := ((object_settles (Lookup.nested 300) .null .null .null).1.mp made).2
      (Lookup.nested 300) (by simp)
    rw [Lookup.levels_nested] at bounded
    exact absurd bounded.2 (by decide)
  · obtain ⟨record, assembled, tooDeep⟩ := Lookup.exists_record_of_deepestName
    refine ⟨record, assembled, fun payload whole => tooDeep ?_⟩
    exact (written [record]).mp ⟨payload, whole⟩ record List.mem_cons_self

end Party

end AccessNotices
