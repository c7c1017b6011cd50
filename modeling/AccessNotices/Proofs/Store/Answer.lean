import AccessNotices.Proofs.Statement.Sql
import AccessNotices.Store.Answer
/-!
What an answer to a statement is.

SQL says which combinations of rows a statement selects, and that none comes before one that the
ordering column puts first. It leaves to the engine how the values of that column are ordered, where
the nulls are among them, and the order of combinations that the column does not tell apart.
`Store.IsAnswer` says no more than that for a given `Collation`, and an engine serves a store when
it gives such an answer to each of the built-in statements (`Engine.Serves`). The store's own engine
does, whatever the collation is that it is given (`Store.engine_serves`).
-/

namespace AccessNotices

open Text

/-- The first combination does not come after the second by a column, the greatest first. -/
def Combination.descending (collation : Collation) (order : Column) (a b : Combination) : Bool :=
  collation.descending (a.column order) (b.column order)

namespace Store

/-- What SQL says of the rows that a statement gives: there is one for each combination that is
selected, and they are ordered by the ordering column. -/
def IsAnswer (collation : Collation) (s : Store) (select : Select) (p : Parameters)
    (rows : List Row) : Prop :=
  ∃ selected, ∃ ordered : List Combination, s.combinations select p = .ok selected ∧
    ordered.Perm selected ∧
    ordered.Pairwise (fun a b => Combination.descending collation select.order a b = true) ∧
    rows = ordered.map (project select)

/-- What is selected can be answered, as SQL says. -/
theorem exists_answer {s : Store} {select : Select} {p : Parameters} {selected : List Combination}
    (combinations : s.combinations select p = .ok selected) (collation : Collation) :
    ∃ rows, s.answer collation select p = .ok rows ∧ s.IsAnswer collation select p rows := by
  let inOrder := Combination.descending collation select.order
  refine ⟨(selected.mergeSort inOrder).map (project select), ?_, selected,
    selected.mergeSort inOrder, combinations, List.mergeSort_perm _ _, ?_, rfl⟩
  · rw [answer, combinations]
    rfl
  · exact List.pairwise_mergeSort
      (fun a b c => collation.descending_trans (a.column _) (b.column _) (c.column _))
      (fun a b => collation.descending_total (a.column _) (b.column _)) selected

/-- A statement that is understood and answered is a session with rows. -/
theorem engine_reads {s : Store} {collation : Collation} {sql : AnyText} {select : Select}
    {p : Parameters} {rows : List Row} (understood : Select.ofSql? sql = some select)
    (answered : s.answer collation select p = .ok rows) :
    (s.engine collation ⟨sql, p⟩).Reads rows := by
  have conduct : s.engine collation ⟨sql, p⟩ = .entered (.complete rows) none := by
    rw [engine]
    simp only [understood, answered]
  rw [conduct]
  exact .complete rows

end Store

/-- An engine serves a store: to each of the built-in statements, with any parameters, it gives an
answer. How it orders what a column holds is its own. -/
def Engine.Serves (collation : Collation) (engine : Engine) (s : Store) : Prop :=
  ∀ selector p, ∃ rows, (engine ⟨.whole (Select.builtIn selector).sql, p⟩).Reads rows ∧
    s.IsAnswer collation (Select.builtIn selector) p rows

/-- The store's own engine serves it, if the built-in statements select anything at all. -/
theorem Store.engine_serves {s : Store}
    (selects : ∀ selector p, ∃ selected,
      s.combinations (Select.builtIn selector) p = .ok selected) (collation : Collation) :
    (s.engine collation).Serves collation s := by
  intro selector p
  obtain ⟨selected, combinations⟩ := selects selector p
  obtain ⟨rows, answered, answer⟩ := exists_answer combinations collation
  exact ⟨rows, engine_reads (Select.ofSql?_builtIn selector) answered, answer⟩

end AccessNotices
