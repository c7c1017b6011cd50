import AccessNotices.Proofs.Record.Shape
/-!
What in a record depends on what.

Two rows are assembled, for two callers and two resource servers, and their records are compared:
what the inputs have in common makes parts of the records the same. The other party comes from four
columns of the row, the caller from the caller alone, and all other columns from the row as they
are; the column that joins the row to the caller has no part in it. Main statement:
`Row.records_depend`.
-/

namespace AccessNotices

namespace Perspective

/-- The column that joins a row to the caller. -/
def joinColumn : Perspective → String
  | consumer => "consumerId"
  | provider => "ownerId"

theorem joinColumn_mem_omitted (p : Perspective) : p.joinColumn ∈ p.omitted := by
  cases p <;> decide

/-- The other party is taken from none of the columns that a record has of its own, and not from the
one that joins. -/
theorem notMem_of_partyColumns {p : Perspective} {name : String} (used : name ∈ p.partyColumns) :
    name ∉ p.joinColumn :: p.supplied := by
  have disjoint : ∀ name ∈ p.partyColumns, name ∉ p.joinColumn :: p.supplied := by
    cases p <;> decide
  exact disjoint name used

end Perspective

namespace Row

/-- Two rows have the same in all columns but these. -/
def AgreeOff (names : List String) (a b : Row) : Prop :=
  ∀ name ∉ names, a.get? name = b.get? name

variable {p : Perspective} {caller caller₁ caller₂ : Party} {url url₁ url₂ : Value}
  {row row₁ row₂ record₁ record₂ : Row}

/-- The column that joins a row to the caller, and columns named as the record's own, make no
difference. -/
theorem IsRecord.sameMapping (first : IsRecord caller p url row₁ record₁)
    (second : IsRecord caller p url row₂ record₂)
    (agree : AgreeOff (p.joinColumn :: p.supplied) row₁ row₂) (name : String) :
    record₁.get? name = record₂.get? name := by
  apply first.get?_congr second (fun _ => rfl) (fun _ => rfl)
  · intro _ name used
    rw [column, column, agree name (Perspective.notMem_of_partyColumns used)]
  · intro stays foreign
    apply agree
    intro mem
    rcases List.mem_cons.mp mem with join | supplied
    · exact stays (join ▸ p.joinColumn_mem_omitted)
    · exact foreign supplied

/-- Of one row, the records for two callers have the same columns, and differ in the caller's at
most. -/
theorem IsRecord.agreeOff_caller (first : IsRecord caller₁ p url row record₁)
    (second : IsRecord caller₂ p url row record₂) :
    record₁.keys = record₂.keys ∧ AgreeOff [(View.of p).caller] record₁ record₂ := by
  constructor
  · rw [first.keys_eq, second.keys_eq]
  · intro name notCaller
    refine first.get?_congr second (fun _ => rfl) ?_ (fun _ _ _ => rfl) (fun _ _ => rfl)
    rintro rfl
    exact absurd (List.mem_singleton_self _) notCaller

/-- **What a record depends on.** Of two records for the same side:
a caller and a server in common, and rows that agree but for the column that joins them to the
caller and for columns named as the record's own, make them the same mapping;
the columns of the other party in common make their other parties the same, a caller in common makes
their callers the same, and a server in common their servers, whatever else differs;
a row and a server in common leave the caller as the only difference;
and records that have the same in every column, in whatever sense, are of rows that have the same in
every column that is neither left out nor the record's own. -/
theorem records_depend (first : row₁.assemble caller₁ p url₁ = .ok record₁)
    (second : row₂.assemble caller₂ p url₂ = .ok record₂) :
    (caller₁ = caller₂ → url₁ = url₂ → AgreeOff (p.joinColumn :: p.supplied) row₁ row₂ →
      ∀ name, record₁.get? name = record₂.get? name) ∧
    ((∀ name ∈ p.partyColumns, row₁.column name = row₂.column name) →
      record₁.get? (View.of p).counterpart = record₂.get? (View.of p).counterpart) ∧
    (caller₁ = caller₂ → record₁.get? (View.of p).caller = record₂.get? (View.of p).caller) ∧
    (url₁ = url₂ → record₁.get? "resourceServerURL" = record₂.get? "resourceServerURL") ∧
    (row₁ = row₂ → url₁ = url₂ →
      record₁.keys = record₂.keys ∧ AgreeOff [(View.of p).caller] record₁ record₂) ∧
    ∀ same : Value → Value → Prop,
      (∀ name, Option.Rel same (record₁.get? name) (record₂.get? name)) →
      ∀ name ∉ p.omitted ++ p.supplied, Option.Rel same (row₁.get? name) (row₂.get? name) := by
  have isFirst := isRecord_of_assemble first
  have isSecond := isRecord_of_assemble second
  refine ⟨?_, isFirst.counterpart_congr isSecond, ?_, ?_, ?_, ?_⟩
  · rintro rfl rfl agree
    exact isFirst.sameMapping isSecond agree
  · rintro rfl
    exact isFirst.caller_congr isSecond
  · rintro rfl
    rw [isFirst.server_eq, isSecond.server_eq]
  · rintro rfl rfl
    exact isFirst.agreeOff_caller isSecond
  · intro same related name kept
    rw [List.mem_append, not_or] at kept
    rw [← isFirst.get?_eq kept.1 kept.2, ← isSecond.get?_eq kept.1 kept.2]
    exact related name

/-- The same row with another value in the column that joins it to the caller, and with a column
named as the caller's own. -/
def rejoinedRow : Row :=
  (crowdedRow.insert "consumerId" (.int 1)).insert "consumer" (.text "somebody")

theorem isWritable_rejoinedRow : rejoinedRow.IsWritable .consumer :=
  ⟨Value.isWritableInt_of_lt (by decide), by decide⟩

theorem agreeOff_rejoinedRow :
    AgreeOff (Perspective.joinColumn .consumer :: Perspective.supplied .consumer) crowdedRow
      rejoinedRow := by
  intro name foreign
  simp only [Perspective.joinColumn, Perspective.supplied, List.mem_cons, not_or] at foreign
  have notJoin : name ≠ "consumerId" := foreign.1
  have notCaller : name ≠ "consumer" := foreign.2.2.1
  rw [rejoinedRow, OrderedMap.get?_insert, if_neg notCaller, OrderedMap.get?_insert,
    if_neg notJoin]

/-- The two rows have the same record. -/
theorem assemble_rejoinedRow :
    ∃ record₁ record₂,
      crowdedRow.assemble consumerCaller.party .consumer (.text "rs://a") = .ok record₁ ∧
      rejoinedRow.assemble consumerCaller.party .consumer (.text "rs://a") = .ok record₂ ∧
      ∀ name, record₁.get? name = record₂.get? name := by
  obtain ⟨written, writable⟩ := isWritable_crowdedRow
  obtain ⟨record₁, first⟩ := (exists_assemble_iff _).mpr ⟨written, writable⟩
  obtain ⟨record₂, second⟩ := (exists_assemble_iff _).mpr ⟨written, isWritable_rejoinedRow⟩
  have law := records_depend first second
  exact ⟨record₁, record₂, first, second, law.1 rfl rfl agreeOff_rejoinedRow⟩

end Row

end AccessNotices
