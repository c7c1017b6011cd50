import AccessNotices.Session.Basic
import AccessNotices.Store.Basic
/-!
What the store answers to a statement.

A statement is taken apart as SQL means it: every combination of rows of the joined tables for which
the joining columns are equal, of these the ones whose columns equal the parameters, in descending
order of a column, and of each the columns that are asked for. Texts are compared, and a null equals
nothing. The order of what a column holds is a parameter.
-/

namespace AccessNotices

/-- A row of a table under consideration. -/
structure Binding where
  table : Table
  id : String
  cells : Cells

namespace Binding

/-- What a bound row holds in a column. -/
def column (b : Binding) (name : String) : Value :=
  if name = Table.idColumn then .text b.id else b.cells.held name

end Binding

/-- One bound row of each table that is joined so far. -/
abbrev Combination := List Binding

namespace Combination

def column (bindings : Combination) (c : Column) : Value :=
  match bindings.find? fun b => b.table == c.table with
  | some b => b.column c.name
  | none => .null

end Combination

/-- Equality of columns with texts: a null equals nothing. -/
def sqlEqual : Value → Value → Bool
  | .text s, .text t => s == t
  | _, _ => false

namespace Store

def bindings (t : Table) (rows : Rows) : List Binding :=
  rows.entries.map fun (id, cells) => ⟨t, id, cells⟩

/-- The combinations with a row of one more table, wherever the joining columns are equal. -/
def joinWith (s : Store) (combinations : List Combination) (j : Join) :
    Except StoreError (List Combination) := do
  let rows ← s.rowsOf j.table
  .ok (combinations.flatMap fun c =>
    ((bindings j.table rows).map (· :: c)).filter fun c =>
      sqlEqual (c.column j.left) (c.column j.right))

/-- All tables that a statement needs have to exist; the first that does not is named. -/
def checkTables (s : Store) (select : Select) : Except StoreError Unit :=
  (select.base :: select.joins.map Join.table).forM fun t => do
    let _ ← s.rowsOf t
    .ok ()

def combinations (s : Store) (select : Select) (p : Parameters) :
    Except StoreError (List Combination) := do
  s.checkTables select
  let base ← s.rowsOf select.base
  let joined ← select.joins.foldlM s.joinWith ((bindings select.base base).map ([·]))
  .ok (joined.filter fun c =>
    select.filters.all fun (column, parameter) =>
      sqlEqual (c.column column) (.text (p.value parameter)))

def project (select : Select) (c : Combination) : Row :=
  .ofList (select.outputs.flatten.map fun (column, name) => (name, c.column column))

/-- The rows that a statement gives, in the descending order of a collation. -/
def answer (s : Store) (collation : Collation) (select : Select) (p : Parameters) :
    Except StoreError (List Row) := do
  let found ← s.combinations select p
  let sorted := found.mergeSort fun a b =>
    collation.descending (a.column select.order) (b.column select.order)
  .ok (sorted.map (project select))

def driverFault (error detail : String) : Fault :=
  ⟨.driver error "", [.text detail]⟩

/-- The store as an engine that orders columns by a collation. It understands the built-in
statements. -/
def engine (s : Store) (collation : Collation) : Engine := fun q =>
  let work := match Select.ofSql? q.statement with
    | none => .refused (driverFault "sqlite3.OperationalError" "statement not understood")
    | some select =>
      match s.answer collation select q.parameters with
      | .ok rows => .complete rows
      | .error e => .refused (driverFault e.driverName e.detail)
  .entered work none

end Store

end AccessNotices
