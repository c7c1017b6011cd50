import AccessNotices.Proofs.Caller.Canonical
import AccessNotices.Proofs.Lookup.Cases
import AccessNotices.Proofs.Record.Assembly
/-!
Which envelope a lookup gives.

How the session ends decides it: a fault that is caught gives one fixed envelope, no rows give one
that names the resource server, rows give their records in order if their other parties can be
written, and a fault that escapes gives none. Main statement: `envelope_of_conduct`, for every
conduct of the store.
-/

namespace AccessNotices.Lookup

/-! ### Rows for instances -/

/-- A row for a consumer whose owner's first name is a given value. -/
def rowNamed (firstName : Value) : Row :=
  .ofList [("status", .text "PENDING"), ("ownerFirstName", firstName)]

def nested : Nat → Value
  | 0 => .null
  | n + 1 => .list [nested n]

theorem levels_nested (n : Nat) : (nested n).levels = n + 1 := by
  induction n with
  | zero => rfl
  | succ n ih => simp [nested, Value.levels, Value.itemLevels, ih]

/-- A name inside three hundred lists cannot be written. -/
theorem not_isWritable_deepName : ¬ (rowNamed (nested 300)).IsWritable .consumer := by
  rintro ⟨-, fields⟩
  have bounded := (fields "ownerFirstName" (by decide)).2
  change (nested 300).levels ≤ Value.levelLimit at bounded
  rw [levels_nested] at bounded
  exact absurd bounded (by decide)

/-! ### Envelopes -/

/-- Rows whose other parties can be written have records for every caller. -/
theorem exists_recordsFor (caller : Caller) {rows : List Row}
    (writable : ∀ row ∈ rows, row.IsWritable (Perspective.classify caller.role)) :
    ∃ records, recordsFor caller rows = .ok records := by
  refine Row.exists_assembleAll fun row h => ?_
  exact (Row.assemble_isOk_iff _ _ _ _).mpr ⟨⟨_, Party.toJson_caller caller⟩, writable row h⟩

/-- Where a row cannot be written, no row has a record. -/
theorem exists_recordsFor_error (caller : Caller) {rows : List Row}
    (unwritable : ∃ row ∈ rows, ¬ row.IsWritable (Perspective.classify caller.role)) :
    ∃ e, recordsFor caller rows = .error e := by
  cases attempt : recordsFor caller rows with
  | error e => exact ⟨e, rfl⟩
  | ok records =>
    obtain ⟨row, mem, unwritable⟩ := unwritable
    have assembled := exists_mapM_iff.mp ⟨records, attempt⟩ row mem
    exact absurd ((Row.assemble_isOk_iff _ _ _ _).mp assembled).2 unwritable

/-- **The envelope of a lookup.** If the session ends with a fault that is caught, whichever step
failed and whatever was read before, the envelope is the database failure, in which nothing comes
from a row. If nothing fails and there are no rows, it is the failure that names the resource
server. If nothing fails and there are rows, it is the success that has the record of each row in
the order of the rows if their other parties can be written, and there is no envelope if one of them
cannot. A fault that escapes is passed on: one that is foreign to the store, or one whose message
cannot be written. -/
theorem envelope_of_conduct (engine : Engine) (caller : Caller) (statements : Statements) :
    let conduct := engine (queryFor caller statements)
    let perspective := Perspective.classify caller.role
    let answer := (build engine caller statements).result
    (∀ f message, conduct.Raises f → f.IsCaught message →
      ∃ failure, answer = .ok (.failure failure) ∧ failure.status.code = 500 ∧
        failure.toJson = .object
          [("type", .int 500), ("title", .string "urn:dx:acl:DatabaseError"),
           ("detail",
             .string "Notifications could not be fetched, Failure while executing query")]) ∧
    (conduct.Reads [] →
      ∃ failure, answer = .ok (.failure failure) ∧ failure.status.code = 404 ∧
        failure.toJson = .object
          [("type", .int 404), ("title", .string "urn:dx:acl:ResourceNotFound"),
           ("detail", .string
             ("Access request not found, for the server : " ++ caller.resourceServerUrl))]) ∧
    (∀ rows, conduct.Reads rows → rows ≠ [] → (∀ row ∈ rows, row.IsWritable perspective) →
      ∃ records, answer = .ok (.success records) ∧ (Envelope.success records).status.code = 200 ∧
        List.Forall₂ (fun row record =>
          row.assemble caller.party perspective (.text caller.resourceServerUrl) = .ok record)
          rows records) ∧
    (∀ rows, conduct.Reads rows → (∃ row ∈ rows, ¬ row.IsWritable perspective) →
      ∃ e, answer = .error (.unwritable e)) ∧
    ∀ f e, conduct.Raises f → f.Escapes e → answer = .error e := by
  refine ⟨?_, ?_, ?_, ?_, ?_⟩
  · intro f message raises caught
    refine ⟨.database, ?_, rfl, rfl⟩
    rw [build_of_caught raises caught]
  · intro reads
    refine ⟨.notFound caller.resourceServerUrl, ?_, rfl, rfl⟩
    rw [build_of_nothing reads]
  · intro rows reads some writable
    obtain ⟨records, assembled⟩ := exists_recordsFor caller writable
    refine ⟨records, ?_, rfl, Row.assembleAll_eq_ok_iff.mp assembled⟩
    rw [build_of_records reads some assembled]
  · intro rows reads unwritable
    obtain ⟨e, failed⟩ := exists_recordsFor_error caller unwritable
    refine ⟨e, ?_⟩
    obtain ⟨row, mem, -⟩ := unwritable
    rw [build_of_unwritable reads (List.ne_nil_of_mem mem) failed]
  · intro f e raises escapes
    rw [build_of_escape raises escapes]

/-- A row is read and assembled; the same row gives nothing if the connection cannot be left, and a
row whose name is nested too deeply gives no envelope at all. -/
theorem envelope_of_one_row :
    (∃ records, (build (fun _ => .entered (.complete [rowNamed (.text "Jo")]) none) consumerCaller
      .builtIn).result = .ok (.success records) ∧ records.length = 1) ∧
    (∃ failure, (build (fun _ => .entered (.complete [rowNamed (.text "Jo")]) (some ⟨.timeout, []⟩))
      consumerCaller .builtIn).result = .ok (.failure failure) ∧ failure.status.code = 500) ∧
    ∃ e, (build (fun _ => .entered (.complete [rowNamed (nested 300)]) none) consumerCaller
      .builtIn).result = .error (.unwritable e) := by
  refine ⟨?_, ?_, ?_⟩
  · have law := envelope_of_conduct (fun _ => .entered (.complete [rowNamed (.text "Jo")]) none)
      consumerCaller .builtIn
    obtain ⟨records, answer, -, each⟩ := law.2.2.1 [rowNamed (.text "Jo")] (.complete _)
      (List.cons_ne_nil _ _) (by unfold Row.IsWritable; decide)
    exact ⟨records, answer, each.length_eq.symm⟩
  · have law := envelope_of_conduct
      (fun _ => .entered (.complete [rowNamed (.text "Jo")]) (some ⟨.timeout, []⟩))
      consumerCaller .builtIn
    obtain ⟨failure, answer, code, -⟩ := law.1 ⟨.timeout, []⟩ "" (.leaving _ _) ⟨rfl, rfl⟩
    exact ⟨failure, answer, code⟩
  · have law := envelope_of_conduct (fun _ => .entered (.complete [rowNamed (nested 300)]) none)
      consumerCaller .builtIn
    exact law.2.2.2.1 _ (.complete _) ⟨_, List.mem_singleton_self _, not_isWritable_deepName⟩

end AccessNotices.Lookup
