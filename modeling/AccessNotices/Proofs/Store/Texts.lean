import AccessNotices.Caller
import AccessNotices.Proofs.OrderedMap
import AccessNotices.Proofs.Traversal
import AccessNotices.Store.Basic
import Mathlib.Logic.Relation
/-!
Columns that hold texts.

What is put into a column is a text, and only the columns for times hold anything else. No change of
a store takes that away (`Store.Change.holdsTexts`), so it holds of every store that is made from
nothing (`Store.holdsTexts_of_changes`).
-/

namespace AccessNotices

/-! ### Rows -/

namespace Cells

/-- The text in a column, if the column holds one. -/
def text? (cells : Cells) (name : String) : Option String :=
  match cells.held name with
  | .text s => some s
  | _ => none

/-- A column holds a text or is null. -/
def HoldsText (cells : Cells) (name : String) : Prop :=
  cells.held name = Caller.textValue (cells.text? name)

theorem text?_eq_some_iff {cells : Cells} {name s : String} :
    cells.text? name = some s ↔ cells.held name = .text s := by
  rw [text?]
  cases cells.held name <;> simp

theorem text?_of_held {cells : Cells} {name : String} {text : Option String}
    (held : cells.held name = Caller.textValue text) : cells.text? name = text := by
  rw [text?, held]
  cases text <;> rfl

theorem holdsText_of_held {cells : Cells} {name : String} {text : Option String}
    (held : cells.held name = Caller.textValue text) : cells.HoldsText name := by
  rw [HoldsText, held, text?_of_held held]

/-- All columns but those for times hold texts. -/
def HoldTexts (cells : Cells) : Prop :=
  ∀ name, timeColumns.contains name = false → cells.HoldsText name

/-- A column that is put in holds what was put in; the others hold what they held. -/
theorem held_insert (cells : Cells) (name name' : String) (v : Value) :
    Cells.held (cells.insert name v) name' = if name' = name then v else cells.held name' := by
  rw [held, OrderedMap.get?_insert]
  split <;> rfl

/-- A column that is taken away holds a null. -/
theorem held_filterKeys (cells : Cells) (p : String → Bool) (name : String) :
    Cells.held (cells.filterKeys p) name = if p name then cells.held name else .null := by
  rw [held, OrderedMap.get?_filterKeys]
  split <;> rfl

theorem HoldsText.of_held {cells cells' : Cells} {name : String} (holds : cells.HoldsText name)
    (same : cells'.held name = cells.held name) : cells'.HoldsText name :=
  holdsText_of_held (same.trans holds)

namespace HoldTexts

variable {cells : Cells}

theorem empty : HoldTexts ∅ :=
  fun _ _ => rfl

theorem insert (holds : cells.HoldTexts) (name s : String) :
    HoldTexts (cells.insert name (Cell.ofColumn name s)) := by
  intro name' noTime
  by_cases same : name' = name
  · have text : Cells.held (cells.insert name (Cell.ofColumn name s)) name' =
        Caller.textValue (some s) := by
      rw [held_insert, if_pos same, ← same, Cell.ofColumn_of_notMem noTime]
      rfl
    exact holdsText_of_held text
  · exact (holds name' noTime).of_held (by rw [held_insert, if_neg same])

theorem filterKeys (holds : cells.HoldTexts) (p : String → Bool) :
    HoldTexts (cells.filterKeys p) := by
  intro name noTime
  cases kept : p name with
  | true => exact (holds name noTime).of_held (by rw [held_filterKeys, kept, if_pos rfl])
  | false =>
    have null : Cells.held (cells.filterKeys p) name = Caller.textValue none := by
      rw [held_filterKeys, kept]
      rfl
    exact holdsText_of_held null

/-- Whatever is given for the columns, they hold texts again. -/
theorem overlay (holds : cells.HoldTexts) (given : Given) :
    HoldTexts (Store.overlay cells given) := by
  induction given generalizing cells with
  | nil => exact holds
  | cons g rest ih =>
    obtain ⟨name, text⟩ := g
    cases text with
    | none => exact ih (holds.filterKeys _)
    | some s => exact ih (holds.insert name s)

/-- The cells that are split off a row hold texts like the row. -/
theorem split {t : Table} {all : Cells} {row : String × Cells} (holds : all.HoldTexts)
    (done : Store.split t all = .ok row) : row.2.HoldTexts := by
  unfold Store.split at done
  split at done
  · cases done
  · cases done
    exact holds.filterKeys _
  · cases done

end HoldTexts

end Cells

/-- All rows of a table hold texts. -/
def Rows.HoldTexts (rows : Rows) : Prop :=
  ∀ row ∈ rows.entries, row.2.HoldTexts

namespace Rows.HoldTexts

variable {rows : Rows}

theorem insert (holds : rows.HoldTexts) {cells : Cells} (texts : cells.HoldTexts) (id : String) :
    Rows.HoldTexts (rows.insert id cells) := by
  intro row mem
  rcases OrderedMap.mem_putEntry mem with rfl | mem
  · exact texts
  · exact holds row mem

theorem filterKeys (holds : rows.HoldTexts) (p : String → Bool) :
    Rows.HoldTexts (rows.filterKeys p) :=
  fun row mem => holds row (List.mem_of_mem_filter mem)

/-- A row that is changed, or that gets another identifier, leaves the others as they are. -/
theorem replaceRow (holds : rows.HoldTexts) {cells : Cells} (texts : cells.HoldTexts)
    (id newId : String) : (Store.replaceRow rows id newId cells).HoldTexts := by
  unfold Store.replaceRow
  split
  · exact holds.insert texts id
  · intro row mem
    obtain ⟨before, stored, rfl⟩ := List.mem_map.mp (OrderedMap.mem_of_mem_ofList mem)
    split
    · exact texts
    · exact holds before stored

end Rows.HoldTexts

/-! ### Stores -/

namespace Store

/-- All tables that exist hold texts. -/
def HoldsTexts (s : Store) : Prop :=
  ∀ t rows, s.table? t = some rows → rows.HoldTexts

/-- One change of a store. -/
inductive Change (s : Store) : Store → Prop where
  | create : Change s s.create
  | insert {t : Table} {given : Given} {s' : Store} (done : s.insert t given = .ok s') :
      Change s s'
  | update {t : Table} {id : String} {given : Given} {s' : Store} {count : Nat}
      (done : s.update t id given = .ok (s', count)) : Change s s'
  | delete {t : Table} {id : String} {s' : Store} {count : Nat}
      (done : s.delete t id = .ok (s', count)) : Change s s'
  | drop {t : Table} {s' : Store} (done : s.drop t = .ok s') : Change s s'

theorem table?_setTable (s : Store) (t t' : Table) (rows : Option Rows) :
    (s.setTable t rows).table? t' = if t' = t then rows else s.table? t' := by
  cases t <;> cases t' <;> rfl

theorem table?_create (s : Store) (t : Table) :
    s.create.table? t = some ((s.table? t).getD ∅) := by
  cases t <;> rfl

/-- The rows of a table can be had exactly when it exists. -/
theorem rowsOf_eq_ok_iff {s : Store} {t : Table} {rows : Rows} :
    s.rowsOf t = .ok rows ↔ s.table? t = some rows := by
  rw [rowsOf]
  cases s.table? t <;> simp

namespace HoldsTexts

variable {s : Store}

theorem empty : HoldsTexts .empty := by
  intro t rows found
  cases t <;> cases found

theorem setTable (holds : s.HoldsTexts) {rows : Rows} (texts : rows.HoldTexts) (t : Table) :
    (s.setTable t (some rows)).HoldsTexts := by
  intro t' rows' found
  rw [table?_setTable] at found
  split at found
  · cases found
    exact texts
  · exact holds t' rows' found

/-- A table that is gone has no row that could hold anything else. -/
theorem dropTable (holds : s.HoldsTexts) (t : Table) : (s.setTable t none).HoldsTexts := by
  intro t' rows' found
  rw [table?_setTable] at found
  split at found
  · cases found
  · exact holds t' rows' found

/-- New tables are empty. -/
theorem create (holds : s.HoldsTexts) : s.create.HoldsTexts := by
  intro t rows found
  rw [table?_create, Option.some.injEq] at found
  subst found
  cases present : s.table? t with
  | none => exact fun row none => absurd none List.not_mem_nil
  | some rows => exact holds t rows present

variable {s' : Store} {t : Table} {given : Given} {id : String} {count : Nat}

/-- A new row holds the texts that are given for it. -/
theorem insert (holds : s.HoldsTexts) (done : s.insert t given = .ok s') : s'.HoldsTexts := by
  obtain ⟨rows, present, done⟩ := bind_eq_ok_iff.mp done
  obtain ⟨-, -, done⟩ := bind_eq_ok_iff.mp done
  obtain ⟨⟨id, cells⟩, whole, done⟩ := bind_eq_ok_iff.mp done
  have texts := (Cells.HoldTexts.empty.overlay given).split whole
  have before := holds t rows (rowsOf_eq_ok_iff.mp present)
  simp only at done
  split at done
  · cases done
  · cases done
    exact holds.setTable (before.insert texts id) t

/-- A row that is there holds what it held and the texts that are given for it. -/
theorem update (holds : s.HoldsTexts) (done : s.update t id given = .ok (s', count)) :
    s'.HoldsTexts := by
  obtain ⟨rows, present, done⟩ := bind_eq_ok_iff.mp done
  obtain ⟨-, -, done⟩ := bind_eq_ok_iff.mp done
  have before := holds t rows (rowsOf_eq_ok_iff.mp present)
  split at done
  · cases done
    exact holds
  case h_2 cells found =>
    obtain ⟨⟨newId, changed⟩, whole, done⟩ := bind_eq_ok_iff.mp done
    have held := before (id, cells) ((OrderedMap.mem_entries_iff ..).mpr found)
    have texts := ((held.insert Table.idColumn id).overlay given).split whole
    simp only at done
    split at done
    · cases done
    · cases done
      exact holds.setTable (before.replaceRow texts id newId) t

theorem delete (holds : s.HoldsTexts) (done : s.delete t id = .ok (s', count)) :
    s'.HoldsTexts := by
  obtain ⟨rows, present, done⟩ := bind_eq_ok_iff.mp done
  cases done
  have before := holds t rows (rowsOf_eq_ok_iff.mp present)
  exact holds.setTable (before.filterKeys _) t

theorem drop (holds : s.HoldsTexts) (done : s.drop t = .ok s') : s'.HoldsTexts := by
  obtain ⟨rows, present, done⟩ := bind_eq_ok_iff.mp done
  cases done
  exact holds.dropTable t

end HoldsTexts

/-- **One change** of a store leaves texts where there were texts. -/
theorem Change.holdsTexts {s s' : Store} (change : s.Change s') (holds : s.HoldsTexts) :
    s'.HoldsTexts := by
  cases change with
  | create => exact holds.create
  | insert done => exact holds.insert done
  | update done => exact holds.update done
  | delete done => exact holds.delete done
  | drop done => exact holds.drop done

/-- **Every store that is made from nothing** holds texts. -/
theorem holdsTexts_of_changes {s : Store} (made : Relation.ReflTransGen Change .empty s) :
    s.HoldsTexts := by
  induction made with
  | refl => exact HoldsTexts.empty
  | tail _ change ih => exact change.holdsTexts ih

end Store

end AccessNotices
