import AccessNotices.Record
import AccessNotices.Session.Fault
import AccessNotices.Statement
import AccessNotices.Transcript
/-!
Sessions with the store: one connection, one statement, and its rows.

How a store behaves in a session is given by a `Conduct`: it may refuse the connection, fail while
the connection is entered, refuse the statement, break off after any number of rows, and fail once
more when the connection is left. `Conduct.borrow` puts a piece of work between entering and leaving
a connection, and `Conduct.play` plays a session through: one statement on a borrowed connection.
Main statements: a session gives rows exactly when nothing fails (`result_play_eq_ok_iff`), and ends
with a fault exactly when something does, at one of five points (`result_play_eq_error_iff`).
-/

namespace AccessNotices

/-- What is asked of the store: a statement with the values of its parameters. -/
structure Query where
  statement : Text.AnyText
  parameters : Parameters
  deriving DecidableEq, Repr

/-- What happens in a session. -/
inductive Event where
  | connect
  | enter
  | execute (q : Query)
  | leave
  deriving DecidableEq, Repr

/-- How the store behaves on an entered connection. -/
inductive Work where
  /-- The statement fails. -/
  | refused (f : Fault)
  /-- The statement succeeds, and after these rows something breaks. -/
  | broken (read : List Row) (f : Fault)
  /-- The statement gives these rows. -/
  | complete (rows : List Row)

namespace Work

/-- The rows, or what kept them from coming. -/
def result : Work → Except Fault (List Row)
  | refused f => .error f
  | broken _ f => .error f
  | complete rows => .ok rows

end Work

/-- How the store behaves in a session. -/
inductive Conduct where
  /-- There is no connection. -/
  | unreachable (f : Fault)
  /-- The connection cannot be entered. -/
  | closed (f : Fault)
  /-- The connection is entered; leaving it may fail. -/
  | entered (work : Work) (leaving : Option Fault)

/-- A store: its conduct for every query. -/
abbrev Engine := Query → Conduct

open Transcript

/-- One statement on an entered connection: it is executed, and its rows are read. -/
def Work.perform (work : Work) (q : Query) : Transcript Event Fault (List Row) := do
  act (.execute q)
  ofExcept work.result

namespace Conduct

/-- A piece of work on a borrowed connection: the connection is asked for, entered, worked on, and
left however the work ends. A failure to leave it covers whatever came before. -/
def borrow {α : Type} (c : Conduct) (body : Work → Transcript Event Fault α) :
    Transcript Event Fault α := do
  act .connect
  match c with
  | unreachable f => fail f
  | closed f => fail f
  | entered work leaving => ((body work).between .enter .leave).coveredBy leaving

/-- A session: one statement on a borrowed connection. -/
def play (c : Conduct) (q : Query) : Transcript Event Fault (List Row) :=
  c.borrow (Work.perform · q)

/-- The session ends with a fault: that of the first step that fails, or of leaving the connection,
which comes last. -/
inductive Raises : Conduct → Fault → Prop where
  | connecting (f : Fault) : Raises (unreachable f) f
  | entering (f : Fault) : Raises (closed f) f
  | executing (f : Fault) : Raises (entered (.refused f) none) f
  | reading (read : List Row) (f : Fault) : Raises (entered (.broken read f) none) f
  | leaving (work : Work) (f : Fault) : Raises (entered work (some f)) f

/-- The session gives rows: no step fails, and these were read. -/
inductive Reads : Conduct → List Row → Prop where
  | complete (rows : List Row) : Reads (entered (.complete rows) none) rows

@[simp] theorem play_unreachable (f : Fault) (q : Query) :
    (unreachable f).play q = ⟨[.connect], [], .error f⟩ := rfl

@[simp] theorem play_closed (f : Fault) (q : Query) :
    (closed f).play q = ⟨[.connect], [], .error f⟩ := rfl

@[simp] theorem play_entered (work : Work) (leaving : Option Fault) (q : Query) :
    (entered work leaving).play q =
      ⟨[.connect, .enter, .execute q, .leave], [],
        match leaving with
        | some f => .error f
        | none => work.result⟩ := by
  cases leaving <;> cases work <;> rfl

theorem result_play_eq_error_iff (c : Conduct) (q : Query) (f : Fault) :
    (c.play q).result = .error f ↔ c.Raises f := by
  constructor
  · intro h
    cases c with
    | unreachable g =>
      cases h
      exact .connecting f
    | closed g =>
      cases h
      exact .entering f
    | entered work leaving =>
      rw [play_entered] at h
      cases leaving with
      | some g =>
        cases h
        exact .leaving work f
      | none =>
        cases work with
        | refused g =>
          cases h
          exact .executing f
        | broken read g =>
          cases h
          exact .reading read f
        | complete rows => cases h
  · intro h
    cases h <;> rfl

theorem result_play_eq_ok_iff (c : Conduct) (q : Query) (rows : List Row) :
    (c.play q).result = .ok rows ↔ c.Reads rows := by
  constructor
  · intro h
    cases c with
    | unreachable g => cases h
    | closed g => cases h
    | entered work leaving =>
      rw [play_entered] at h
      cases leaving with
      | some g => cases h
      | none =>
        cases work with
        | refused g => cases h
        | broken read g => cases h
        | complete rows' =>
          cases h
          exact .complete rows
  · intro h
    cases h
    rfl

/-- A session ends with a fault or with rows. -/
theorem raises_or_reads (c : Conduct) : (∃ f, c.Raises f) ∨ ∃ rows, c.Reads rows := by
  cases c with
  | unreachable f => exact .inl ⟨f, .connecting f⟩
  | closed f => exact .inl ⟨f, .entering f⟩
  | entered work leaving =>
    cases leaving with
    | some f => exact .inl ⟨f, .leaving work f⟩
    | none =>
      cases work with
      | refused f => exact .inl ⟨f, .executing f⟩
      | broken read f => exact .inl ⟨f, .reading read f⟩
      | complete rows => exact .inr ⟨rows, .complete rows⟩

end Conduct

/-- How often connections were asked for, entered and left. -/
structure Tally where
  connects : Nat
  entered : Nat
  left : Nat
  deriving DecidableEq, Repr

namespace Tally

def zero : Tally := ⟨0, 0, 0⟩

def count (t : Tally) : Event → Tally
  | .connect => { t with connects := t.connects + 1 }
  | .enter => { t with entered := t.entered + 1 }
  | .execute _ => t
  | .leave => { t with left := t.left + 1 }

def countAll (t : Tally) (events : List Event) : Tally :=
  events.foldl count t

end Tally

def executed (events : List Event) : List Query :=
  events.filterMap fun
    | .execute q => some q
    | _ => none

end AccessNotices
