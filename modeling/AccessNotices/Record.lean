import AccessNotices.OrderedMap
import AccessNotices.Party
import AccessNotices.Perspective
/-!
Records: rows of the store made ready for a caller.

A row carries the other party's names, email and identifier in columns of its own. A record has
those columns left out, and the column that joins the row to the caller too; it names the resource
server and carries both parties as objects. A record is a row again, so it can be assembled once
more. `assembleAt` does the same on mappings that can be changed, and leaves the row as it was.
-/

namespace AccessNotices

/-- Columns in order. -/
abbrev Row := OrderedMap String Value

/-- Mappings that can be changed, each at its address. -/
abbrev Memory := List Row

namespace Memory

/-- A mapping at an address of its own. -/
def allocate (memory : Memory) (row : Row) : Memory × Nat :=
  (memory ++ [row], memory.length)

/-- The mapping at an address with a value for a column. -/
def assign (memory : Memory) (address : Nat) (name : String) (v : Value) : Memory :=
  memory.modify address fun row => row.insert name v

end Memory

/-- The columns that carry the other party, and the one that joins a row to the caller. -/
structure CounterpartColumns where
  firstName : String
  lastName : String
  id : String
  email : String
  join : String

namespace CounterpartColumns

/-- What a consumer's rows carry. -/
def owner : CounterpartColumns :=
  ⟨"ownerFirstName", "ownerLastName", "ownerId", "ownerEmailId", "consumerId"⟩

/-- What a provider's rows carry. -/
def consumer : CounterpartColumns :=
  ⟨"consumerFirstName", "consumerLastName", "consumerId", "consumerEmailId", "ownerId"⟩

def dropped (c : CounterpartColumns) : List String :=
  [c.firstName, c.lastName, c.id, c.email, c.join]

end CounterpartColumns

/-- The columns of the other party in a caller's rows. -/
def Perspective.columns : Perspective → CounterpartColumns
  | consumer => .owner
  | provider => .consumer

namespace Row

def resourceServerColumn : String := "resourceServerURL"

/-- The value of a column; null if the row has none. -/
def column (row : Row) (name : String) : Value :=
  (row.get? name).getD .null

def counterpart (row : Row) (p : Perspective) : Except WritingError Party :=
  let c := p.columns
  Party.of (row.column c.firstName) (row.column c.lastName) (row.column c.id) (row.column c.email)

def strip (row : Row) (p : Perspective) : Row :=
  row.filterKeys fun name => !p.columns.dropped.contains name

/-- The record of a row: the columns that are kept, the resource server, and both parties. -/
def assemble (caller : Party) (p : Perspective) (url : Value) (row : Row) :
    Except WritingError Row := do
  let counterpart ← row.counterpart p
  let own ← caller.toJson
  let other ← counterpart.toJson
  .ok ((((row.strip p).insert resourceServerColumn url).insert p.text own.toValue).insert
    p.opposite.text other.toValue)

def assembleAll (caller : Party) (p : Perspective) (url : Value) (rows : List Row) :
    Except WritingError (List Row) :=
  rows.mapM (assemble caller p url)

/-- Assembling the mapping at an address, step by step: a mapping is made of the columns that stay,
and its own columns are put into it one after another. -/
def assembleAt (caller : Party) (p : Perspective) (url : Value) (memory : Memory) (address : Nat) :
    Except WritingError (Memory × Nat) := do
  let row := memory[address]?.getD ∅
  let counterpart ← row.counterpart p
  let (memory, record) := memory.allocate (row.strip p)
  let memory := memory.assign record resourceServerColumn url
  let own ← caller.toJson
  let memory := memory.assign record p.text own.toValue
  let other ← counterpart.toJson
  .ok (memory.assign record p.opposite.text other.toValue, record)

/-- Assembling the mappings at some addresses, one after another. -/
def assembleAllAt (caller : Party) (p : Perspective) (url : Value) (memory : Memory) :
    List Nat → Except WritingError (Memory × List Nat)
  | [] => .ok (memory, [])
  | address :: rest => do
    let (memory, record) ← assembleAt caller p url memory address
    let (memory, records) ← assembleAllAt caller p url memory rest
    .ok (memory, record :: records)

def toJson (row : Row) : Except WritingError Json :=
  (row.entries.mapM fun e => (Value.toJson e.2).map fun j => (e.1, j)).map Json.object

end Row

end AccessNotices
