import AccessNotices.Envelope
import AccessNotices.Proofs.Json.Reading
import AccessNotices.Proofs.Record.Encoding
/-!
The objects of envelopes.

An envelope is handed out as the text of its object, so the object has to be what the text is read
as. Main statements: the text of a failure is read back as its object (`Failure.read?_encoded`), and
so is the printed text of any envelope that has an object (`Envelope.isProper_of_toJson`).
-/

namespace AccessNotices

/-- A status code has three digits. -/
theorem Status.isWritableInt_code (s : Status) : Value.isWritableInt s.code = true :=
  Value.isWritableInt_of_lt (by cases s <;> decide)

namespace Failure

theorem isProper_toJson (f : Failure) : f.toJson.IsProper :=
  .object (by decide : ["type", "title", "detail"].Nodup)
    (by simp [Json.IsProper.int, Json.IsProper.string])

theorem isPrintable_toJson (f : Failure) : f.toJson.isPrintable = true := by
  have short := f.status.isWritableInt_code
  simp [toJson, Json.isPrintable, Json.areMembersPrintable, short]

/-- The text of a failure is read back as its object. -/
theorem read?_encoded (f : Failure) : Json.read? f.encoded = some f.toJson :=
  Json.read?_compact f.isProper_toJson

end Failure

namespace Envelope

/-- The object of a success, from the objects of its records. -/
def successObject (items : List Json) : Json :=
  .object
    [("result", .object
       [("type", .string ResponseName.success.urn), ("title", .string ResponseName.success.message),
        ("result", .array items)]),
     ("statusCode", .int Status.success.code)]

theorem toJson_success_eq_ok_iff {records : List Row} {payload : Json} :
    (success records).toJson = .ok payload ↔
      ∃ items, records.mapM Row.toJson = .ok items ∧ successObject items = payload := by
  simp only [toJson, successJson, bind_eq_ok_iff, Except.ok.injEq, successObject]

/-- A success has an object that can be printed if each of its records has one. -/
theorem exists_toJson_success {records : List Row}
    (each : ∀ record ∈ records, ∃ j, record.toJson = .ok j ∧ j.isPrintable = true) :
    ∃ payload, (success records).toJson = .ok payload ∧ payload.isPrintable = true := by
  obtain ⟨items, whole⟩ := exists_mapM_iff.mpr fun record mem =>
    (each record mem).imp fun _ object => object.1
  have short : Json.arePrintable items = true := by
    rw [Json.arePrintable_iff]
    intro j mem
    obtain ⟨record, inside, object⟩ := exists_of_mem_mapM whole mem
    obtain ⟨j', object', short⟩ := each record inside
    cases object.symm.trans object'
    exact short
  have code := Status.success.isWritableInt_code
  refine ⟨successObject items, toJson_success_eq_ok_iff.mpr ⟨items, whole, rfl⟩, ?_⟩
  simp [successObject, Json.isPrintable, Json.areMembersPrintable, short, code]

/-- No object in the object of an envelope has two members of one name. -/
theorem isProper_of_toJson {e : Envelope} {payload : Json} (object : e.toJson = .ok payload) :
    payload.IsProper := by
  cases e with
  | failure f =>
    cases object
    exact f.isProper_toJson
  | success records =>
    obtain ⟨items, whole, rfl⟩ := toJson_success_eq_ok_iff.mp object
    have inside : ∀ j ∈ items, j.IsProper := by
      intro j mem
      obtain ⟨record, -, object⟩ := exists_of_mem_mapM whole mem
      exact Row.isProper_of_toJson object
    refine .object (by decide : ["result", "statusCode"].Nodup) ?_
    refine List.forall_mem_cons.mpr ⟨?_, List.forall_mem_singleton.mpr (.int _)⟩
    refine .object (by decide : ["type", "title", "result"].Nodup) ?_
    simp [Json.IsProper.string, Json.IsProper.array inside]

end Envelope

end AccessNotices
