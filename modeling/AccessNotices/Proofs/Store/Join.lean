import AccessNotices.Proofs.OrderedMap
import AccessNotices.Store.Answer
/-!
Joins on identifiers.

A join on an identifier finds at most one row, the one that the joining column names, so it extends
each combination by at most one row (`Store.joinWith_id`).
-/

namespace AccessNotices

/-! ### Columns of bound rows -/

theorem Binding.column_id (b : Binding) : b.column Table.idColumn = .text b.id :=
  if_pos rfl

theorem Binding.column_of_ne (b : Binding) {name : String} (other : name ≠ Table.idColumn) :
    b.column name = b.cells.held name :=
  if_neg other

/-! ### Joins on identifiers -/

/-- A combination with the row of one more table whose identifier a column holds, if there is
one. -/
def Combination.extend (t : Table) (rows : Rows) (right : Column) (c : Combination) :
    Option Combination :=
  match c.column right with
  | .text id => (rows.get? id).map fun cells => ⟨t, id, cells⟩ :: c
  | _ => none

theorem Combination.column_head (b : Binding) (c : Combination) (name : String) :
    Combination.column (b :: c) ⟨b.table, name⟩ = b.column name := by
  rw [Combination.column, List.find?_cons, beq_self_eq_true]

theorem Combination.column_tail {b : Binding} {name : Column}
    (elsewhere : b.table ≠ name.table) (c : Combination) :
    Combination.column (b :: c) name = c.column name := by
  have other : (b.table == name.table) = false := beq_false_of_ne elsewhere
  rw [Combination.column, List.find?_cons, other]
  rfl

namespace Store

/-- Of the rows of a table at most one has the identifier that a column holds. -/
theorem filter_bindings (t : Table) (rows : Rows) {right : Column} (elsewhere : t ≠ right.table)
    (c : Combination) :
    ((bindings t rows).map (· :: c)).filter (fun c' : Combination =>
      sqlEqual (c'.column ⟨t, Table.idColumn⟩) (c'.column right)) =
        (c.extend t rows right).toList := by
  -- On each row the test compares the row's identifier with what the column holds.
  have test : ∀ e : String × Cells,
      sqlEqual (Combination.column (⟨t, e.1, e.2⟩ :: c) ⟨t, Table.idColumn⟩)
        (Combination.column (⟨t, e.1, e.2⟩ :: c) right) = sqlEqual (.text e.1) (c.column right) := by
    intro e
    rw [Combination.column_head ⟨t, e.1, e.2⟩ c, Binding.column_id,
      Combination.column_tail (b := ⟨t, e.1, e.2⟩) elsewhere]
  have rowwise : ((bindings t rows).map (· :: c)).filter (fun c' : Combination =>
      sqlEqual (c'.column ⟨t, Table.idColumn⟩) (c'.column right)) =
      (rows.entries.filter fun e => sqlEqual (.text e.1) (c.column right)).map
        fun e => ⟨t, e.1, e.2⟩ :: c := by
    rw [bindings, List.map_map, List.filter_map]
    exact congrArg (List.map _) (List.filter_congr fun e _ => test e)
  rw [rowwise, Combination.extend]
  cases c.column right with
  | text id =>
    have one : rows.entries.filter (fun e => sqlEqual (.text e.1) (.text id)) =
        ((rows.get? id).map (id, ·)).toList :=
      rows.filter_key id
    rw [one]
    cases found : rows.get? id <;> simp [found]
  | _ => simp [sqlEqual]

/-- **A join on an identifier** extends each combination by at most one row. -/
theorem joinWith_id {s : Store} {t : Table} {rows : Rows} (present : s.rowsOf t = .ok rows)
    {right : Column} (elsewhere : t ≠ right.table) (cs : List Combination) :
    s.joinWith cs ⟨t, ⟨t, Table.idColumn⟩, right⟩ =
      .ok (cs.filterMap (Combination.extend t rows right)) := by
  rw [joinWith, present]
  refine congrArg Except.ok ?_
  induction cs with
  | nil => rfl
  | cons c rest ih =>
    rw [List.flatMap_cons, ih, filter_bindings t rows elsewhere c, List.filterMap_cons]
    cases c.extend t rows right <;> rfl

/-- If all tables are there and the joins succeed, the filters decide what is selected. -/
theorem combinations_of_joined {s : Store} {select : Select} {base : Rows}
    {joined : List Combination} (p : Parameters) (checked : s.checkTables select = .ok ())
    (present : s.rowsOf select.base = .ok base)
    (joins : select.joins.foldlM s.joinWith ((bindings select.base base).map ([·])) = .ok joined) :
    s.combinations select p = .ok (joined.filter fun c =>
      select.filters.all fun (column, parameter) =>
        sqlEqual (c.column column) (.text (p.value parameter))) := by
  rw [combinations, checked]
  simp only [bind, Except.bind, present, joins]

end Store

end AccessNotices
