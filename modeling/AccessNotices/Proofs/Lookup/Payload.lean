import AccessNotices.Proofs.Envelope
import AccessNotices.Proofs.Lookup.Cases
/-!
Lookups whose envelopes can be printed.

If the store fails, if at all, in a way that is caught, and all rows that it gives can be encoded,
then every lookup gives an envelope, and the envelope has an object that can be printed
(`exists_printable_payload`).
-/

namespace AccessNotices.Lookup

variable {engine : Engine} {caller : Caller} {statements : Statements}

/-- Rows that can be encoded have records, each with an object that can be printed. -/
theorem exists_printable_records {rows : List Row}
    (encodable : ∀ row ∈ rows, row.IsEncodable (Perspective.classify caller.role)) :
    ∃ records, recordsFor caller rows = .ok records ∧
      ∀ record ∈ records, ∃ j, record.toJson = .ok j ∧ j.isPrintable = true := by
  have object := fun row mem => (encodable row mem).exists_object caller caller.resourceServerUrl
  obtain ⟨records, assembled⟩ : ∃ records, recordsFor caller rows = .ok records :=
    Row.exists_assembleAll fun row mem => by
      obtain ⟨record, -, assembled, -⟩ := object row mem
      exact ⟨record, assembled⟩
  refine ⟨records, assembled, fun record mem => ?_⟩
  obtain ⟨row, inside, this⟩ := exists_of_mem_mapM assembled mem
  obtain ⟨record', j, assembled', printable⟩ := object row inside
  cases this.symm.trans assembled'
  exact ⟨j, printable⟩

/-- The lookup gives an envelope with an object that can be printed. -/
theorem exists_printable_payload
    (caught : ∀ f, (engine (queryFor caller statements)).Raises f →
      ∃ message, f.IsCaught message)
    (encodable : ∀ rows, (engine (queryFor caller statements)).Reads rows →
      ∀ row ∈ rows, row.IsEncodable (Perspective.classify caller.role)) :
    ∃ envelope payload, (build engine caller statements).result = .ok envelope ∧
      envelope.toJson = .ok payload ∧ payload.isPrintable = true := by
  rcases (engine (queryFor caller statements)).raises_or_reads with ⟨f, raises⟩ | ⟨rows, reads⟩
  · obtain ⟨message, caught⟩ := caught f raises
    have built := build_of_caught raises caught
    exact ⟨_, _, congrArg Transcript.result built, rfl, Failure.isPrintable_toJson .database⟩
  · by_cases none : rows = []
    · subst none
      exact ⟨_, _, congrArg Transcript.result (build_of_nothing reads), rfl,
        Failure.isPrintable_toJson (.notFound caller.resourceServerUrl)⟩
    · obtain ⟨records, assembled, each⟩ := exists_printable_records (encodable rows reads)
      obtain ⟨payload, object, printable⟩ := Envelope.exists_toJson_success each
      have built := build_of_records reads none assembled
      exact ⟨_, payload, congrArg Transcript.result built, object, printable⟩

end AccessNotices.Lookup
