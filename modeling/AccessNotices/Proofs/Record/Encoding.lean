import AccessNotices.Proofs.Record.Assembly
import AccessNotices.Proofs.Value.Form
/-!
Which rows can be printed as records.

The other party's names and email become JSON twice: when the party is put into the record, and
again when the record is printed, where they stand below the party's object. `Row.IsEncodable` says
what that takes of the columns of a row. Main statement: of rows without long integers, these are
exactly the ones whose records have an object (`isEncodable_iff`), and that object can be printed
(`exists_object`).
-/

namespace AccessNotices

open Value

/-! ### Objects of parties -/

namespace Party

variable {email firstName lastName : Json} {id : Option String}

/-- The object of a party is proper if its parts are. -/
theorem isProper_objectOf (properEmail : email.IsProper) (properFirst : firstName.IsProper)
    (properLast : lastName.IsProper) : (objectOf email firstName lastName id).IsProper := by
  have properId : (idJson id).IsProper := by
    cases id <;> constructor
  have properName : (Json.object [("firstName", firstName), ("lastName", lastName)]).IsProper :=
    .object (by decide : ["firstName", "lastName"].Nodup) (by simp [properFirst, properLast])
  exact .object (by decide : ["email", "name", "id"].Nodup)
    (by simp [properEmail, properName, properId])

theorem isPrintable_objectOf (printableEmail : email.isPrintable = true)
    (printableFirst : firstName.isPrintable = true) (printableLast : lastName.isPrintable = true) :
    (objectOf email firstName lastName id).isPrintable = true := by
  have printableId : (idJson id).isPrintable = true := by
    cases id <;> rfl
  simp [objectOf, Json.isPrintable, Json.areMembersPrintable, printableEmail, printableFirst,
    printableLast, printableId]

/-- The email stands one level below the object, and the names two. -/
theorem levels_objectOf_le_iff {n : Nat} :
    (objectOf email firstName lastName id).toValue.levels ≤ n ↔
      3 ≤ n ∧ 1 + email.toValue.levels ≤ n ∧ 2 + firstName.toValue.levels ≤ n ∧
        2 + lastName.toValue.levels ≤ n := by
  have one : (idJson id).toValue.levels = 1 := by
    cases id <;> rfl
  have scalar (j : Json) : 1 ≤ j.toValue.levels := by
    cases j <;> simp [Json.toValue, levels]
  have first := scalar firstName
  simp only [objectOf, Json.toValue, Json.membersToValue, levels, entryLevels, one]
  omega

theorem objectOfTexts_eq (email firstName lastName id : Option String) :
    objectOfTexts email firstName lastName id =
      objectOf (textJson email) (textJson firstName) (textJson lastName) id := by
  cases id <;> rfl

/-- The object of a party that is known by texts only is its own form, and can be printed. -/
theorem toJson_objectOfTexts (email firstName lastName id : Option String) :
    (objectOfTexts email firstName lastName id).toValue.toJson =
        .ok (objectOfTexts email firstName lastName id) ∧
      (objectOfTexts email firstName lastName id).isPrintable = true := by
  have proper (s : Option String) : (textJson s).IsProper := by
    cases s <;> constructor
  have short (s : Option String) : (textJson s).isPrintable = true := by
    cases s <;> rfl
  have single (s : Option String) : (textJson s).toValue.levels = 1 := by
    cases s <;> rfl
  rw [objectOfTexts_eq]
  constructor
  · refine toJsonWithin_toValue
      (isProper_objectOf (proper email) (proper firstName) (proper lastName))
      (levels_objectOf_le_iff.mpr ?_)
    rw [single, single, single]
    decide
  · exact isPrintable_objectOf (short email) (short firstName) (short lastName)

end Party

/-! ### Rows -/

namespace Perspective

/-- The columns of a row that a record takes nothing from: the one that joins the row to the caller,
and those of the names that the record gives a value of its own. -/
def ignored (p : Perspective) : List String :=
  [p.columns.join, Row.resourceServerColumn, p.text, p.opposite.text]

/-- How many levels below the record's own value of a column its contents stand. -/
def depthOf (p : Perspective) (name : String) : Nat :=
  if name = p.columns.firstName ∨ name = p.columns.lastName then 2
  else if name = p.columns.email then 1
  else 0

/-- A column goes at most two levels down. -/
theorem depthOf_le (p : Perspective) (name : String) : p.depthOf name ≤ 2 := by
  unfold depthOf
  split
  · exact Nat.le_refl 2
  · split <;> decide

theorem depthOf_written (p : Perspective) :
    p.depthOf p.columns.email = 1 ∧ p.depthOf p.columns.firstName = 2 ∧
      p.depthOf p.columns.lastName = 2 := by
  cases p <;> decide

/-- A column that is kept stays where it is. -/
theorem depthOf_of_notMem {p : Perspective} {name : String} (kept : name ∉ p.columns.dropped) :
    p.depthOf name = 0 := by
  simp only [CounterpartColumns.dropped, List.mem_cons, List.not_mem_nil, or_false, not_or] at kept
  rw [depthOf, if_neg (not_or.mpr ⟨kept.1, kept.2.1⟩), if_neg kept.2.2.2.1]

end Perspective

namespace Row

/-- No column that a record takes something from has an integer that is too long to be written. -/
def HasShortIntegers (p : Perspective) (row : Row) : Prop :=
  ∀ e ∈ row.entries, e.1 ∉ p.ignored → e.2.isWritable = true

/-- The record of a row can be printed. Its columns have forms; those of the other party's names and
email have levels to spare for the objects around them. Of the identifier only the text is taken. -/
structure IsEncodable (p : Perspective) (row : Row) : Prop where
  short : row.HasShortIntegers p
  form : ∀ e ∈ row.entries, e.1 ∉ p.columns.id :: p.ignored →
    ∃ j, e.2.toJson = .ok j ∧ p.depthOf e.1 + j.toValue.levels ≤ levelLimit

variable {p : Perspective} {row : Row}

theorem mem_entries_of_column {name : String} (some : row.column name ≠ .null) :
    (name, row.column name) ∈ row.entries := by
  rw [OrderedMap.mem_entries_iff, column]
  cases found : row.get? name with
  | none => exact absurd (by rw [column, found]; rfl) some
  | some v => rfl

/-- A column that is missing has a form too: it counts as a null. -/
theorem IsEncodable.exists_form (h : row.IsEncodable p) {name : String}
    (used : name ∉ p.columns.id :: p.ignored) :
    ∃ j, (row.column name).toJson = .ok j ∧ j.isPrintable = true ∧ j.IsProper ∧
      p.depthOf name + j.toValue.levels ≤ levelLimit := by
  by_cases missing : row.column name = .null
  · rw [missing]
    have shallow := p.depthOf_le name
    exact ⟨.null, rfl, rfl, .null, Nat.le_trans (Nat.add_le_add_right shallow 1) (by decide)⟩
  · have mem := mem_entries_of_column missing
    obtain ⟨j, form, bounded⟩ := h.form _ mem used
    have short := h.short _ mem (fun ignored => used (List.mem_cons_of_mem _ ignored))
    exact ⟨j, form, isPrintable_of_toJson form short, isProper_of_toJson form, bounded⟩

/-- The identifier of the other party has a plain text. -/
theorem IsEncodable.writable_id (h : row.IsEncodable p) :
    (row.column p.columns.id).isWritable = true := by
  by_cases missing : row.column p.columns.id = .null
  · rw [missing]
    rfl
  · have used : p.columns.id ∉ p.ignored := by
      cases p <;> decide
    exact h.short _ (mem_entries_of_column missing) used

/-- The other party of a row that can be encoded has an object, which is its own form. -/
theorem IsEncodable.exists_counterpart (h : row.IsEncodable p) :
    ∃ other, row.counterpartObject p = .ok other ∧ other.toValue.toJson = .ok other ∧
      other.isPrintable = true := by
  have used : ∀ name ∈ p.columns.written, name ∉ p.columns.id :: p.ignored := by
    cases p <;> decide
  obtain ⟨emailDepth, firstDepth, lastDepth⟩ := p.depthOf_written
  simp only [CounterpartColumns.written, List.forall_mem_cons] at used
  obtain ⟨email, emailForm, emailShort, emailProper, emailFits⟩ := h.exists_form used.1
  obtain ⟨first, firstForm, firstShort, firstProper, firstFits⟩ := h.exists_form used.2.1
  obtain ⟨last, lastForm, lastShort, lastProper, lastFits⟩ := h.exists_form used.2.2.1
  rw [emailDepth] at emailFits
  rw [firstDepth] at firstFits
  rw [lastDepth] at lastFits
  obtain ⟨id, text⟩ := (Party.idText_isOk_iff _).mpr h.writable_id
  refine ⟨Party.objectOf email first last id, ?_, ?_, ?_⟩
  · exact counterpartObject_eq_ok_iff.mpr ⟨id, text,
      Party.toJson_eq_ok_iff.mpr ⟨email, first, last, emailForm, firstForm, lastForm, rfl⟩⟩
  · refine toJsonWithin_toValue (Party.isProper_objectOf emailProper firstProper lastProper) ?_
    exact Party.levels_objectOf_le_iff.mpr ⟨by decide, emailFits, firstFits, lastFits⟩
  · exact Party.isPrintable_objectOf emailShort firstShort lastShort

/-! ### Objects of records -/

/-- A row has an object exactly when each of its columns has a form. -/
theorem exists_toJson_iff (row : Row) :
    (∃ j, row.toJson = .ok j) ↔ ∀ e ∈ row.entries, ∃ j, e.2.toJson = .ok j := by
  have entry (e : String × Value) :
      (∃ m, (e.2.toJson.map fun j => (e.1, j)) = .ok m) ↔ ∃ j, e.2.toJson = .ok j := by
    simp [map_eq_ok_iff]
  simp only [toJson, map_eq_ok_iff]
  simp only [← entry, ← exists_mapM_iff]
  simp

/-- The members of the object of a row are named as its columns are, each with the form of what is
in its column. -/
theorem members_of_toJson {row : Row} {j : Json} (object : row.toJson = .ok j) :
    ∃ members, j = .object members ∧ members.map Prod.fst = row.keys ∧
      ∀ m ∈ members, ∃ e ∈ row.entries, e.2.toJson = .ok m.2 := by
  obtain ⟨members, whole, rfl⟩ := map_eq_ok_iff.mp object
  refine ⟨members, rfl, map_eq_of_mapM ?_ whole, ?_⟩
  · intro e m given
    obtain ⟨j, -, rfl⟩ := map_eq_ok_iff.mp given
    rfl
  · intro m mem
    obtain ⟨e, entry, given⟩ := exists_of_mem_mapM whole mem
    obtain ⟨j, form, rfl⟩ := map_eq_ok_iff.mp given
    exact ⟨e, entry, form⟩

/-- The object of a row is proper. -/
theorem isProper_of_toJson {row : Row} {j : Json} (object : row.toJson = .ok j) : j.IsProper := by
  obtain ⟨members, rfl, names, forms⟩ := members_of_toJson object
  refine .object (names ▸ row.nodup) fun m mem => ?_
  obtain ⟨e, -, form⟩ := forms m mem
  exact Value.isProper_of_toJson form

theorem isPrintable_of_toJson {row : Row} {j : Json} (object : row.toJson = .ok j)
    (short : ∀ e ∈ row.entries, ∀ j, e.2.toJson = .ok j → j.isPrintable = true) :
    j.isPrintable = true := by
  obtain ⟨members, rfl, -, forms⟩ := members_of_toJson object
  rw [Json.isPrintable, Json.areMembersPrintable_iff]
  intro m mem
  obtain ⟨e, entry, form⟩ := forms m mem
  exact short e entry m.2 form

/-- What a record has in its columns: the address, the two parties, and what is kept of the row. -/
theorem forall_recordOf_iff (holds : Value → Prop) (url own other : Value) :
    (∀ e ∈ (row.recordOf p url own other).entries, holds e.2) ↔
      holds url ∧ holds own ∧ holds other ∧
        ∀ e ∈ row.entries, e.1 ∉ p.columns.dropped → e.1 ∉ p.ignored → holds e.2 := by
  have distinct : p.text ≠ p.opposite.text ∧ resourceServerColumn ≠ p.opposite.text ∧
      resourceServerColumn ≠ p.text := by
    cases p <;> decide
  have given (name : String) (v : Value)
      (found : (row.recordOf p url own other).get? name = some v) :
      (name, v) ∈ (row.recordOf p url own other).entries :=
    (OrderedMap.mem_entries_iff _ name v).mpr found
  constructor
  · intro all
    refine ⟨all _ (given resourceServerColumn url ?_), all _ (given p.text own ?_),
      all _ (given p.opposite.text other ?_), ?_⟩
    · rw [get?_recordOf, if_neg distinct.2.1, if_neg distinct.2.2, if_pos rfl]
    · rw [get?_recordOf, if_neg distinct.1, if_pos rfl]
    · rw [get?_recordOf, if_pos rfl]
    · rintro ⟨name, v⟩ mem kept notIgnored
      simp only [Perspective.ignored, List.mem_cons, List.not_mem_nil, or_false, not_or]
        at notIgnored
      have notDropped : p.columns.dropped.contains name = false := by simpa using kept
      refine all _ (given name v ?_)
      rw [get?_recordOf, if_neg notIgnored.2.2.2, if_neg notIgnored.2.2.1, if_neg notIgnored.2.1,
        notDropped]
      exact (row.mem_entries_iff name v).mp mem
  · rintro ⟨url, own, other, kept⟩ ⟨name, v⟩ mem
    rw [OrderedMap.mem_entries_iff, get?_recordOf] at mem
    -- The cases are those of `get?_recordOf`: the last column that is put wins.
    split at mem
    case isTrue =>
      cases mem
      exact other
    case isFalse notOther =>
      split at mem
      case isTrue =>
        cases mem
        exact own
      case isFalse notOwn =>
        split at mem
        case isTrue =>
          cases mem
          exact url
        case isFalse notServer =>
          split at mem
          case isTrue => cases mem
          case isFalse notDropped =>
            have kept' : name ∉ p.columns.dropped := by simpa using notDropped
            have notJoin : name ≠ p.columns.join := by
              rintro rfl
              exact kept' (by simp [CounterpartColumns.dropped])
            refine kept (name, v) ((row.mem_entries_iff name v).mpr mem) kept' ?_
            simp [Perspective.ignored, notOther, notOwn, notServer, notJoin]

/-- **The object of a record.** A row that can be encoded has a record for every caller, and the
record has an object, in which no integer is too long to be printed. -/
theorem IsEncodable.exists_object (h : row.IsEncodable p) (caller : Caller) (url : String) :
    ∃ record j, row.assemble caller.party p (.text url) = .ok record ∧ record.toJson = .ok j ∧
      j.isPrintable = true := by
  obtain ⟨other, counterpart, otherForm, otherShort⟩ := h.exists_counterpart
  obtain ⟨ownForm, ownShort⟩ := Party.toJson_objectOfTexts caller.email caller.firstName
    caller.lastName (some caller.id.text)
  have kept : ∀ e ∈ row.entries, e.1 ∉ p.columns.dropped → e.1 ∉ p.ignored →
      ∃ j, e.2.toJson = .ok j ∧ j.isPrintable = true := by
    intro e mem notDropped notIgnored
    have notId : e.1 ≠ p.columns.id := fun same => notDropped (by
      rw [same]
      simp [CounterpartColumns.dropped])
    obtain ⟨j, form, -⟩ := h.form e mem (by simp [notId, notIgnored])
    exact ⟨j, form, Value.isPrintable_of_toJson form (h.short e mem notIgnored)⟩
  have forms := (forall_recordOf_iff (fun v => ∃ j, v.toJson = .ok j ∧ j.isPrintable = true)
    (.text url) _ _).mpr ⟨⟨.string url, rfl, rfl⟩, ⟨_, ownForm, ownShort⟩,
      ⟨other, otherForm, otherShort⟩, kept⟩
  obtain ⟨j, object⟩ := (exists_toJson_iff _).mpr fun e mem =>
    (forms e mem).imp fun _ form => form.1
  refine ⟨_, j, assemble_of_ok (Party.toJson_caller caller) counterpart _, object, ?_⟩
  refine isPrintable_of_toJson object fun e mem k form => ?_
  obtain ⟨k', form', short⟩ := forms e mem
  cases form.symm.trans form'
  exact short

/-- Where the other party's object stands in a record, the columns behind it have forms with levels
to spare. -/
theorem exists_form_of_dropped {other : Json} (counterpart : row.counterpartObject p = .ok other)
    (fits : other.toValue.levels ≤ levelLimit) {name : String} (dropped : name ∈ p.columns.dropped)
    (used : name ∉ p.columns.id :: p.ignored) :
    ∃ j, (row.column name).toJson = .ok j ∧ p.depthOf name + j.toValue.levels ≤ levelLimit := by
  obtain ⟨id, -, written⟩ := counterpartObject_eq_ok_iff.mp counterpart
  obtain ⟨email, first, last, emailForm, firstForm, lastForm, rfl⟩ :=
    Party.toJson_eq_ok_iff.mp written
  obtain ⟨-, emailFits, firstFits, lastFits⟩ := Party.levels_objectOf_le_iff.mp fits
  obtain ⟨emailDepth, firstDepth, lastDepth⟩ := p.depthOf_written
  simp only [Perspective.ignored, List.mem_cons, List.not_mem_nil, or_false, not_or] at used
  obtain ⟨notId, notJoin, -⟩ := used
  simp only [CounterpartColumns.dropped, List.mem_cons, List.not_mem_nil, or_false, notId, notJoin,
    false_or] at dropped
  rcases dropped with rfl | rfl | rfl
  · rw [firstDepth]
    exact ⟨first, firstForm, firstFits⟩
  · rw [lastDepth]
    exact ⟨last, lastForm, lastFits⟩
  · rw [emailDepth]
    exact ⟨email, emailForm, emailFits⟩

/-- Of rows without long integers, those that can be encoded are the ones whose records have
objects. -/
theorem isEncodable_iff (caller : Caller) (url : String) :
    row.IsEncodable p ↔ row.HasShortIntegers p ∧
      ∃ record j, row.assemble caller.party p (.text url) = .ok record ∧ record.toJson = .ok j := by
  constructor
  · intro h
    obtain ⟨record, j, assembled, object, -⟩ := h.exists_object caller url
    exact ⟨h.short, record, j, assembled, object⟩
  · rintro ⟨short, record, j, assembled, object⟩
    refine ⟨short, fun e mem used => ?_⟩
    obtain ⟨own, other, -, counterpart, rfl⟩ := assemble_eq_ok_iff.mp assembled
    obtain ⟨-, -, otherForm, kept⟩ := (forall_recordOf_iff (fun v => ∃ j, v.toJson = .ok j)
      _ _ _).mp ((exists_toJson_iff _).mp ⟨j, object⟩)
    -- The email and the names are inside the object of the party, any other column is as it was.
    by_cases dropped : e.1 ∈ p.columns.dropped
    · have column : row.column e.1 = e.2 := by
        rw [Row.column, (row.mem_entries_iff e.1 e.2).mp mem]
        rfl
      rw [← column]
      exact exists_form_of_dropped counterpart ((hasJson_iff _ _).mp otherForm).2 dropped used
    · rw [List.mem_cons, not_or] at used
      obtain ⟨j, form⟩ := kept e mem dropped used.2
      refine ⟨j, form, ?_⟩
      rw [Perspective.depthOf_of_notMem dropped, Nat.zero_add]
      exact Nat.le_trans (levels_toValue_le form) ((hasJson_iff _ _).mp ⟨j, form⟩).2

end Row

end AccessNotices
