import AccessNotices.Proofs.Lookup.Envelope
import AccessNotices.Proofs.Session.Discipline
/-!
One classification decides what is asked, and how it is shown.

A `View` lists by name all that depends on the side on which a caller stands: the statement that is
run, where the caller and the other party stand in a record, and the columns that the other party is
taken from. There are two of them, and a lookup keeps to the one of the caller's role throughout.
Main statement: `Lookup.build_keeps_view`.
-/

namespace AccessNotices

open Text

/-! ### Views -/

/-- How one side of the requests is looked up and shown: the statement, the names under which a
record has the caller and the other party, and the columns that carry the other party. -/
structure View where
  statement : Statements → AnyText
  caller : String
  counterpart : String
  firstName : String
  lastName : String
  id : String
  email : String

namespace View

def made : View where
  statement := Statements.consumer
  caller := "consumer"
  counterpart := "provider"
  firstName := "ownerFirstName"
  lastName := "ownerLastName"
  id := "ownerId"
  email := "ownerEmailId"

/-- The requests that were made to a provider. -/
def received : View where
  statement := Statements.provider
  caller := "provider"
  counterpart := "consumer"
  firstName := "consumerFirstName"
  lastName := "consumerLastName"
  id := "consumerId"
  email := "consumerEmailId"

def of : Perspective → View
  | .consumer => made
  | .provider => received

theorem statement_of (p : Perspective) (statements : Statements) :
    (of p).statement statements = statements.get p.selector := by
  cases p <;> rfl

/-- What a view asks for a caller: its statement, for the caller's identifier in lower case and the
caller's resource server as it was given. -/
def query (view : View) (caller : Caller) (statements : Statements) : Query :=
  ⟨view.statement statements,
    ⟨String.ofList (lower caller.id.text.toList), caller.resourceServerUrl⟩⟩

/-- A record shows a row as this view has it: the caller, the other party of the row, and the
resource server, each under its name. The texts of the caller stand there as they were sent; the
names and the email of the other party as JSON, and its identifier as plain text. -/
structure Presents (view : View) (caller : Caller) (row record : Row) : Prop where
  caller_eq : record.get? view.caller =
    some (Party.identity caller.email caller.firstName caller.lastName caller.id.text)
  counterpart_eq : ∃ email firstName lastName id,
    (row.column view.email).toJson = .ok email ∧
    (row.column view.firstName).toJson = .ok firstName ∧
    (row.column view.lastName).toJson = .ok lastName ∧
    Party.idText (row.column view.id) = .ok id ∧
    record.get? view.counterpart = some (.ofFields
      [("email", email.toValue),
       ("name", .ofFields [("firstName", firstName.toValue), ("lastName", lastName.toValue)]),
       ("id", Caller.textValue id)])
  server_eq : record.get? "resourceServerURL" = some (.text caller.resourceServerUrl)

end View

/-! ### Records -/

namespace Party

theorem toValue_idJson (id : Option String) : (idJson id).toValue = Caller.textValue id := by
  cases id <;> rfl

end Party

namespace Row

variable {caller : Caller} {row record : Row}

/-- What the other party of a row is written as. -/
theorem toValue_of_counterpartObject {p : Perspective} {other : Json}
    (written : row.counterpartObject p = .ok other) :
    ∃ email firstName lastName id,
      (row.column p.columns.email).toJson = .ok email ∧
      (row.column p.columns.firstName).toJson = .ok firstName ∧
      (row.column p.columns.lastName).toJson = .ok lastName ∧
      Party.idText (row.column p.columns.id) = .ok id ∧
      other.toValue = .ofFields
        [("email", email.toValue),
         ("name", .ofFields [("firstName", firstName.toValue), ("lastName", lastName.toValue)]),
         ("id", Caller.textValue id)] := by
  obtain ⟨id, text, object⟩ := counterpartObject_eq_ok_iff.mp written
  obtain ⟨email, firstName, lastName, emailEq, firstEq, lastEq, rfl⟩ :=
    Party.toJson_eq_ok_iff.mp object
  refine ⟨email, firstName, lastName, id, emailEq, firstEq, lastEq, text, ?_⟩
  rw [← Party.toValue_idJson]
  rfl

/-- An assembled row is shown as the view of its side has it. -/
theorem presents_of_assemble (p : Perspective)
    (assembled : row.assemble caller.party p (.text caller.resourceServerUrl) = .ok record) :
    (View.of p).Presents caller row record := by
  obtain ⟨own, other, written, counterpart, rfl⟩ := assemble_eq_ok_iff.mp assembled
  obtain ⟨email, firstName, lastName, id, emailEq, firstEq, lastEq, text, shape⟩ :=
    toValue_of_counterpartObject counterpart
  rw [Party.toJson_caller] at written
  cases written
  rw [Party.toValue_objectOfTexts]
  -- The names of a view and those of its side agree once the side is known.
  constructor
  · rw [get?_recordOf]
    cases p <;> rfl
  · refine ⟨email, firstName, lastName, id, ?_, ?_, ?_, ?_, ?_⟩
    · cases p <;> exact emailEq
    · cases p <;> exact firstEq
    · cases p <;> exact lastEq
    · cases p <;> exact text
    · rw [get?_recordOf, shape]
      cases p <;> rfl
  · rw [get?_recordOf]
    cases p <;> rfl

end Row

/-! ### Lookups -/

theorem Conduct.eq_of_mem_executed_play {c : Conduct} {q asked : Query}
    (mem : asked ∈ executed (c.play q).events) : asked = q := by
  cases c with
  | unreachable f => cases mem
  | closed f => cases mem
  | entered work leaving =>
    rw [play_entered] at mem
    exact List.mem_singleton.mp mem

namespace Lookup

variable {engine : Engine} {caller : Caller} {statements : Statements} {records : List Row}

/-- The records of a success are those of the rows that were read. -/
theorem exists_reads_of_success
    (success : (build engine caller statements).result = .ok (.success records)) :
    ∃ rows, (engine (queryFor caller statements)).Reads rows ∧
      recordsFor caller rows = .ok records := by
  obtain ⟨log, -, ends⟩ := exists_ending engine caller statements
  rw [success] at ends
  cases ends with
  | records reads some assembled => exact ⟨_, reads, assembled⟩

theorem queryFor_eq (caller : Caller) (statements : Statements) :
    queryFor caller statements =
      (View.of (Perspective.classify caller.role)).query caller statements := by
  rw [queryFor, caller.id.toString_uuid, View.query, View.statement_of]

/-- **A lookup keeps to one view.** Whatever the store does, only the query of the view of the
caller's role is executed, and it is executed as soon as a connection is entered. In a success each
record shows its row as this view has it: the caller under the name of its own side, with the
identifier as it was sent, and the other party under the other name. -/
theorem build_keeps_view (engine : Engine) (caller : Caller) (queries : Option Statements) :
    let statements := queries.getD .builtIn
    let view := View.of (Perspective.classify caller.role)
    let asked := view.query caller statements
    (∀ q ∈ executed (build engine caller statements).events, q = asked) ∧
    (∀ work leaving, engine asked = .entered work leaving →
      asked ∈ executed (build engine caller statements).events) ∧
    ∀ records, (build engine caller statements).result = .ok (.success records) →
      ∃ rows, (engine asked).Reads rows ∧ List.Forall₂ (view.Presents caller) rows records := by
  intro statements view asked
  have same : queryFor caller statements = asked := queryFor_eq caller statements
  refine ⟨?_, ?_, ?_⟩
  · intro q mem
    rw [events_build, same] at mem
    exact Conduct.eq_of_mem_executed_play mem
  · intro work leaving entered
    rw [events_build, same, sessionEvents, entered, Conduct.play_entered]
    exact List.mem_singleton_self asked
  · intro records success
    obtain ⟨rows, reads, assembled⟩ := exists_reads_of_success success
    rw [same] at reads
    refine ⟨rows, reads, ?_⟩
    exact (Row.assembleAll_eq_ok_iff.mp assembled).imp fun row record =>
      Row.presents_of_assemble (Perspective.classify caller.role)

/-- A consumer's query is executed, and the consumer is shown the row that was read. -/
theorem build_keeps_view_of_one_row :
    View.made.query consumerCaller .builtIn ∈
      executed (build (fun _ => .entered (.complete [rowNamed (.text "Jo")]) none)
        consumerCaller .builtIn).events ∧
    ∃ record, (build (fun _ => .entered (.complete [rowNamed (.text "Jo")]) none) consumerCaller
        .builtIn).result = .ok (.success [record]) ∧
      View.made.Presents consumerCaller (rowNamed (.text "Jo")) record := by
  obtain ⟨-, executes, shown⟩ := build_keeps_view
    (fun _ => .entered (.complete [rowNamed (.text "Jo")]) none) consumerCaller none
  have writable : ∀ row ∈ [rowNamed (.text "Jo")], row.IsWritable .consumer := by
    decide
  obtain ⟨records, assembled⟩ := exists_recordsFor consumerCaller writable
  have success : (build (fun _ => .entered (.complete [rowNamed (.text "Jo")]) none) consumerCaller
      .builtIn).result = .ok (.success records) := by
    rw [build_of_records (.complete _) (List.cons_ne_nil _ _) assembled]
  obtain ⟨rows, reads, each⟩ := shown records success
  cases reads
  obtain ⟨record, none, presents, nothing, rfl⟩ := List.forall₂_cons_left_iff.mp each
  cases nothing
  exact ⟨executes _ _ rfl, record, success, presents⟩

end Lookup

end AccessNotices
