import AccessNotices.Json.Basic
import AccessNotices.OrderedMap
import AccessNotices.Statement
import AccessNotices.Store.Cell
import AccessNotices.Value.Display
/-!
The store: three tables that may or may not exist, and the rows in them.

A stored row is found by its identifier, which no two rows of a table share; its other columns hold
values, a column without one being null. Rows are given as texts. They are put in, changed and taken
out one at a time, and a row that breaks a rule of its table is refused with the first column that
breaks it. A store can be kept as a JSON object, its snapshot: it has a member for each table that
exists, which is an array of the rows.
-/

namespace AccessNotices

/-- The columns of a stored row that are not null, without the identifier. -/
abbrev Cells := OrderedMap String Value

/-- What a row holds in a column. -/
def Cells.held (cells : Cells) (name : String) : Value :=
  (cells.get? name).getD .null

/-- The rows of a table by their identifiers, in the order in which they came. -/
abbrev Rows := OrderedMap String Cells

inductive StoreError where
  | noTable (t : Table)
  | noColumn (t : Table) (name : String)
  | nullColumn (t : Table) (name : String)
  | sameId (t : Table)
  deriving DecidableEq, Repr

namespace StoreError

/-- Is the refusal about the content of a row, and not about tables and columns? -/
def isIntegrity : StoreError → Bool
  | nullColumn .. => true
  | sameId .. => true
  | _ => false

def kind (e : StoreError) : String :=
  if e.isIntegrity then "IntegrityError" else "OperationalError"

/-- What the driver says. -/
def detail : StoreError → String
  | noTable t => "no such table: " ++ t.sqlName
  | noColumn t name => "table " ++ t.sqlName ++ " has no column named " ++ name
  | nullColumn t name => "NOT NULL constraint failed: " ++ t.sqlName ++ "." ++ name
  | sameId t => "UNIQUE constraint failed: " ++ t.sqlName ++ "._id"

def driverName (e : StoreError) : String :=
  "sqlite3." ++ e.kind

/-- The wording of a refusal. -/
def message (e : StoreError) : String :=
  "(" ++ e.driverName ++ ") " ++ e.detail

end StoreError

namespace Table

def idColumn : String := "_id"

/-- The columns of a table in order; those marked must not be null. -/
def columns : Table → List (String × Bool)
  | account =>
    [(idColumn, true), ("email_id", true), ("first_name", false), ("last_name", false),
     ("created_at", false), ("updated_at", false)]
  | resource =>
    [(idColumn, true), ("provider_id", true), ("resource_group_id", false), ("item_type", true),
     ("resource_server_url", true), ("created_at", false)]
  | request =>
    [(idColumn, true), ("user_id", true), ("item_id", true), ("owner_id", true), ("status", true),
     ("expiry_at", false), ("constraints", false), ("additional_info", false),
     ("created_at", false), ("updated_at", false)]

def hasColumn (t : Table) (name : String) : Bool :=
  t.columns.any fun c => c.1 == name

def firstNull? (t : Table) (cell : String → Option Value) : Option String :=
  (t.columns.find? fun c => c.2 && (cell c.1).isNone).map Prod.fst

end Table

/-- What is given for the columns of a row; a null takes a column's text away. -/
abbrev Given := List (String × Option String)

structure Store where
  request : Option Rows
  account : Option Rows
  resource : Option Rows

namespace Store

def empty : Store := ⟨none, none, none⟩

def table? (s : Store) : Table → Option Rows
  | .request => s.request
  | .account => s.account
  | .resource => s.resource

/-- The store with other rows in a table, or without the table. -/
def setTable (s : Store) (t : Table) (rows : Option Rows) : Store :=
  match t with
  | .request => { s with request := rows }
  | .account => { s with account := rows }
  | .resource => { s with resource := rows }

def create (s : Store) : Store :=
  let kept (rows : Option Rows) : Option Rows := some (rows.getD ∅)
  ⟨kept s.request, kept s.account, kept s.resource⟩

def rowsOf (s : Store) (t : Table) : Except StoreError Rows :=
  match s.table? t with
  | some rows => .ok rows
  | none => .error (.noTable t)

def checkColumns (t : Table) (given : Given) : Except StoreError Unit :=
  match given.find? fun g => !t.hasColumn g.1 with
  | some g => .error (.noColumn t g.1)
  | none => .ok ()

def overlay (cells : Cells) (given : Given) : Cells :=
  given.foldl (fun cells g =>
    match g.2 with
    | some text => cells.insert g.1 (Cell.ofColumn g.1 text)
    | none => cells.filterKeys (· ≠ g.1)) cells

/-- A row from all its columns: the identifier and the other cells; no column may be null that must
not be. -/
def split (t : Table) (all : Cells) : Except StoreError (String × Cells) :=
  match t.firstNull? all.get?, all.get? Table.idColumn with
  | some name, _ => .error (.nullColumn t name)
  | none, some (.text id) => .ok (id, all.filterKeys (· ≠ Table.idColumn))
  | none, _ => .error (.nullColumn t Table.idColumn)

def insert (s : Store) (t : Table) (given : Given) : Except StoreError Store := do
  let rows ← s.rowsOf t
  checkColumns t given
  let (id, cells) ← split t (overlay ∅ given)
  match rows.get? id with
  | some _ => .error (.sameId t)
  | none => .ok (s.setTable t (some (rows.insert id cells)))

/-- The store with more rows, up to the first that is refused; those before it stay. -/
def insertAll (s : Store) (t : Table) : List Given → Store × Except StoreError Unit
  | [] => (s, .ok ())
  | given :: rest =>
    match s.insert t given with
    | .ok s => s.insertAll t rest
    | .error e => (s, .error e)

/-- Rows with one row changed, and with its new identifier in the place of the old one. -/
def replaceRow (rows : Rows) (id newId : String) (cells : Cells) : Rows :=
  if id = newId then rows.insert id cells
  else .ofList (rows.entries.map fun e => if e.1 = id then (newId, cells) else e)

/-- The store with a row changed, and how many rows that were. -/
def update (s : Store) (t : Table) (id : String) (given : Given) :
    Except StoreError (Store × Nat) := do
  let rows ← s.rowsOf t
  checkColumns t given
  match rows.get? id with
  | none => .ok (s, 0)
  | some cells =>
    let (newId, cells) ← split t (overlay (cells.insert Table.idColumn (.text id)) given)
    if newId ≠ id ∧ (rows.get? newId).isSome then .error (.sameId t)
    else .ok (s.setTable t (some (replaceRow rows id newId cells)), 1)

/-- The store without a row, and how many rows that were. -/
def delete (s : Store) (t : Table) (id : String) : Except StoreError (Store × Nat) := do
  let rows ← s.rowsOf t
  .ok (s.setTable t (some (rows.filterKeys (· ≠ id))), if (rows.get? id).isSome then 1 else 0)

def drop (s : Store) (t : Table) : Except StoreError Store := do
  let _ ← s.rowsOf t
  .ok (s.setTable t none)

/-! ### Snapshots -/

/-- What a column holds, as a text that gives it when it is put in again. -/
def spelled : Value → String
  | .float (.infinite negative) => if negative then "-9e999" else "9e999"
  | v => v.display

def rowJson (row : String × Cells) : Json :=
  .object ((Table.idColumn, .string row.1) ::
    row.2.entries.map fun (name, v) => (name, .string (spelled v)))

def tableJson (s : Store) (t : Table) : Option (String × Json) :=
  (s.table? t).map fun rows => (t.sqlName, .array (rows.entries.map rowJson))

def toJson (s : Store) : Json :=
  .object (Table.all.filterMap s.tableJson)

/-- A column of a row in a snapshot. -/
def givenOfMember : String × Json → String × Option String
  | (name, .string text) => (name, some text)
  | (name, _) => (name, none)

/-- What a row of a snapshot gives for the columns. -/
def givenOf : Json → Given
  | .object members => members.map givenOfMember
  | _ => []

def addTable (snapshot : Json) (s : Store) (t : Table) : Store :=
  match snapshot.member? t.sqlName with
  | some (.array rows) => ((s.setTable t (some ∅)).insertAll t (rows.map givenOf)).1
  | _ => s

/-- The store of a snapshot; rows that break a rule of their table, and those behind them, are left
out. -/
def ofJson (snapshot : Json) : Store :=
  Table.all.foldl (addTable snapshot) empty

end Store

end AccessNotices
