import AccessNotices.Proofs.Lookup.Cases
/-!
The discipline of connections over whole runs.

A connection goes through stages: it is asked for, entered, used for one statement, and released.
`Stage.Step` says what each event does to the stage, and `Stage.Accounts` is the invariant that it
preserves: how often each thing has happened is a function of the stage. A session keeps to these
stages whatever the store does, and every call is one session. Main statements:

* `Conduct.borrow_runs`: work on a borrowed connection ends with the connection at rest;
* `Call.playAll_disciplined`: in every sequence of calls each call keeps the discipline, and at
  every boundary between calls what was entered was left.
-/

namespace AccessNotices

/-! ### Stages of a connection -/

/-- How far a connection has come. -/
inductive Stage where
  | fresh
  | asked
  | held
  | used
  | released

namespace Stage

/-- What one event does to a connection. -/
inductive Step : Stage → Event → Stage → Prop where
  | connect : Step fresh .connect asked
  | enter : Step asked .enter held
  | execute (q : Query) : Step held (.execute q) used
  | leaveUnused : Step held .leave released
  | leaveUsed : Step used .leave released

/-- What events do to a connection, one after another. -/
inductive Run : Stage → List Event → Stage → Prop where
  | nil (s : Stage) : Run s [] s
  | cons {s middle last : Stage} {e : Event} {events : List Event} :
      Step s e middle → Run middle events last → Run s (e :: events) last

/-- A connection that nobody has to give back: it never came, or it was released. -/
inductive AtRest : Stage → Prop where
  | asked : AtRest asked
  | released : AtRest released

/-- How often a connection was asked for. -/
def connects : Stage → Nat
  | fresh => 0
  | _ => 1

/-- How often it was entered. -/
def entries : Stage → Nat
  | fresh | asked => 0
  | held | used | released => 1

/-- How often it was left. -/
def exits : Stage → Nat
  | released => 1
  | _ => 0

/-- How many statements it can have executed. -/
def statements : Stage → Nat
  | fresh | asked | held => 0
  | used | released => 1

/-- The stage accounts for what was done: it says how often the connection was asked for, entered
and left, bounds what was executed, and every statement was executed between entering and
leaving. -/
structure Accounts (s : Stage) (done : List Event) : Prop where
  connects_eq : done.count .connect = s.connects
  entries_eq : done.count .enter = s.entries
  exits_eq : done.count .leave = s.exits
  executed_le : (executed done).length ≤ s.statements
  executed_inside : ∀ before q after, done = before ++ .execute q :: after →
    before.count .enter = before.count .leave + 1

theorem accounts_fresh : Accounts fresh [] where
  connects_eq := rfl
  entries_eq := rfl
  exits_eq := rfl
  executed_le := Nat.le_refl 0
  executed_inside := by
    intro before q after split
    cases before <;> cases split

/-- What is executed first comes first. -/
theorem executed_append (first second : List Event) :
    executed (first ++ second) = executed first ++ executed second :=
  List.filterMap_append

/-- One event at the end comes last, or what is split off before is a part of what came earlier. -/
theorem split_concat {done before after : List Event} {e : Event} {q : Query}
    (split : done ++ [e] = before ++ .execute q :: after) :
    (done = before ∧ e = .execute q) ∨ ∃ rest, done = before ++ .execute q :: rest := by
  rcases List.eq_nil_or_concat after with rfl | ⟨rest, last, rfl⟩
  · obtain ⟨same, single⟩ := List.append_inj' split rfl
    exact .inl ⟨same, List.head_eq_of_cons_eq single⟩
  · rw [List.concat_eq_append, ← List.cons_append, ← List.append_assoc] at split
    exact .inr ⟨rest, (List.append_inj' split rfl).1⟩

namespace Step

variable {s next : Stage} {e : Event}

/-- A step counts a connection exactly when one is asked for. -/
theorem connects_eq (step : Step s e next) : next.connects = s.connects + [e].count .connect := by
  cases step <;> rfl

/-- A step counts an entry exactly when a connection is entered. -/
theorem entries_eq (step : Step s e next) : next.entries = s.entries + [e].count .enter := by
  cases step <;> rfl

/-- A step counts a release exactly when a connection is left. -/
theorem exits_eq (step : Step s e next) : next.exits = s.exits + [e].count .leave := by
  cases step <;> rfl

/-- A step that executes a statement counts it. -/
theorem executed_le (step : Step s e next) :
    s.statements + (executed [e]).length ≤ next.statements := by
  cases step with
  | leaveUnused => exact Nat.zero_le 1
  | connect | enter | execute | leaveUsed => exact Nat.le_refl _

/-- A statement is executed on a connection that was entered and not left. -/
theorem entries_of_execute {q : Query} (step : Step s (.execute q) next) :
    s.entries = s.exits + 1 := by
  cases step
  rfl

end Step

/-- One event preserves the accounts. -/
theorem Accounts.step {s next : Stage} {done : List Event} {e : Event} (accounts : Accounts s done)
    (step : Step s e next) : Accounts next (done ++ [e]) where
  connects_eq := by rw [List.count_append, accounts.connects_eq, step.connects_eq]
  entries_eq := by rw [List.count_append, accounts.entries_eq, step.entries_eq]
  exits_eq := by rw [List.count_append, accounts.exits_eq, step.exits_eq]
  executed_le := by
    rw [executed_append, List.length_append]
    exact Nat.le_trans (Nat.add_le_add_right accounts.executed_le _) step.executed_le
  executed_inside := by
    intro before q after split
    rcases split_concat split with ⟨rfl, rfl⟩ | ⟨rest, earlier⟩
    · rw [accounts.entries_eq, accounts.exits_eq, step.entries_of_execute]
    · exact accounts.executed_inside before q rest earlier

/-- A run preserves the accounts. -/
theorem Accounts.run {s last : Stage} {done events : List Event} (accounts : Accounts s done)
    (run : Run s events last) : Accounts last (done ++ events) := by
  -- Each event moves from what is still to come to the end of what was done.
  induction run generalizing done with
  | nil s =>
    rw [List.append_nil]
    exact accounts
  | @cons s middle last e events step _ ih =>
    have rest := ih (accounts.step step)
    rwa [List.append_assoc] at rest

/-- Runs can be put together. -/
theorem Run.append {s middle last : Stage} {first second : List Event} (run : Run s first middle)
    (next : Run middle second last) : Run s (first ++ second) last := by
  induction run with
  | nil s => exact next
  | cons step _ ih => exact .cons step (ih next)

theorem AtRest.connects_eq {s : Stage} (rest : AtRest s) : s.connects = 1 := by
  cases rest <;> rfl

/-- At rest everything that was entered was left. -/
theorem AtRest.exits_eq {s : Stage} (rest : AtRest s) : s.exits = s.entries := by
  cases rest <;> rfl

/-- No stage has more than one entry. -/
theorem entries_le (s : Stage) : s.entries ≤ 1 := by
  cases s <;> decide

/-- No stage has more than one statement. -/
theorem statements_le (s : Stage) : s.statements ≤ 1 := by
  cases s <;> decide

end Stage

/-! ### Disciplined events -/

/-- Events that keep the discipline: they take one connection through its stages and leave it at
rest. So one connection is asked for, and no second one; it is entered at most once, and left as
often as it is entered; at most one statement is executed, and only while the connection is
entered. -/
structure Disciplined (events : List Event) : Prop where
  runs : ∃ last, Stage.Run .fresh events last ∧ last.AtRest
  connects_once : events.count .connect = 1
  enters_once : events.count .enter ≤ 1
  executes_once : (executed events).length ≤ 1
  leaves_entered : events.count .leave = events.count .enter
  executes_inside : ∀ before q after, events = before ++ .execute q :: after →
    before.count .enter = before.count .leave + 1

/-- A run that leaves its connection at rest is disciplined. -/
theorem Stage.Run.disciplined {events : List Event} {last : Stage} (run : Run fresh events last)
    (rest : AtRest last) : Disciplined events := by
  have accounts : Accounts last ([] ++ events) := accounts_fresh.run run
  rw [List.nil_append] at accounts
  exact {
    runs := ⟨last, run, rest⟩
    connects_once := by rw [accounts.connects_eq, rest.connects_eq]
    enters_once := by
      rw [accounts.entries_eq]
      exact last.entries_le
    executes_once := Nat.le_trans accounts.executed_le last.statements_le
    leaves_entered := by rw [accounts.exits_eq, accounts.entries_eq, rest.exits_eq]
    executes_inside := accounts.executed_inside }

/-! ### Borrowed connections -/

/-- What a borrowed connection was used for: nothing, or one statement. -/
inductive Stage.Usable : Stage → Prop where
  | held : Usable held
  | used : Usable used

theorem Stage.Usable.leave {s : Stage} (usable : Usable s) : Step s .leave released := by
  cases usable with
  | held => exact .leaveUnused
  | used => exact .leaveUsed

namespace Conduct

open Transcript Stage

/-- Work on a borrowed connection leaves it at rest, whatever fails: if the work itself takes an
entered connection no further than one statement, the connection is released after it. -/
theorem borrow_runs {α : Type} (c : Conduct) (body : Work → Transcript Event Fault α)
    (kept : ∀ work, ∃ s, Run held (body work).events s ∧ Usable s) :
    ∃ last, Run fresh (c.borrow body).events last ∧ AtRest last := by
  cases c with
  | unreachable f => exact ⟨asked, .cons .connect (.nil _), .asked⟩
  | closed f => exact ⟨asked, .cons .connect (.nil _), .asked⟩
  | entered work leaving =>
    obtain ⟨s, run, usable⟩ := kept work
    refine ⟨released, ?_, .released⟩
    have events : ((entered work leaving).borrow body).events =
        .connect :: .enter :: ((body work).events ++ [.leave]) := by
      cases leaving <;> rfl
    rw [events]
    exact .cons .connect (.cons .enter (run.append (.cons usable.leave (.nil _))))

/-- The work on a borrowed connection executes at most the one statement. -/
theorem perform_runs (work : Work) (q : Query) :
    ∃ s, Run held (work.perform q).events s ∧ Usable s := by
  refine ⟨used, ?_, .used⟩
  cases work <;> exact .cons (.execute q) (.nil _)

/-- Whatever the store does in a session, the session is disciplined. -/
theorem play_disciplined (c : Conduct) (q : Query) : Disciplined (c.play q).events := by
  obtain ⟨last, run, rest⟩ := c.borrow_runs (Work.perform · q) (perform_runs · q)
  exact run.disciplined rest

end Conduct

/-! ### Calls -/

namespace Lookup

variable (engine : Engine) (q : Query) (caller : Caller) (statements : Statements)

theorem events_fetch : (fetch engine q).events = sessionEvents engine q := by
  rw [fetch, Transcript.events_bind_of_silent, session_eq]
  intro rows
  rfl

theorem events_run : (run engine q).events = sessionEvents engine q := by
  rw [run, ← events_fetch, catchStoreFailure]
  split <;> rfl

/-- What is made of an outcome does not touch the store. -/
theorem events_conclude (outcome : Outcome) : (conclude caller outcome).events = [] := by
  cases outcome with
  | failed message => rw [conclude_failed]
  | rows rows =>
    cases rows with
    | nil => rw [conclude_nothing]
    | cons row rest =>
      cases assembled : recordsFor caller (row :: rest) with
      | ok records => rw [conclude_records (List.cons_ne_nil _ _) assembled]
      | error e => rw [conclude_unwritable (List.cons_ne_nil _ _) assembled]

/-- Building an envelope is one session. -/
theorem events_build : (build engine caller statements).events =
    sessionEvents engine (queryFor caller statements) := by
  rw [build, Transcript.note_bind]
  exact (Transcript.events_bind_of_silent _ _ (events_conclude caller)).trans
    (events_run engine _)

/-- Getting an envelope is one session. -/
theorem events_get : (get engine caller statements).events =
    sessionEvents engine (queryFor caller statements) := by
  rw [get, Transcript.events_bind_of_silent, events_build]
  intro envelope
  cases envelope <;> rfl

end Lookup

namespace Call

def query : Call → Query
  | fetch q => q
  | run q => q
  | build caller statements => Lookup.queryFor caller statements
  | get caller statements => Lookup.queryFor caller statements

/-- A call is one session, with its own query. -/
theorem events_play (engine : Engine) (call : Call) :
    (call.play engine).events = ((engine call.query).play call.query).events := by
  cases call with
  | fetch q => exact (Transcript.events_map _ _).trans (Lookup.events_fetch engine q)
  | run q => exact (Transcript.events_map _ _).trans (Lookup.events_run engine q)
  | build caller statements =>
    exact (Transcript.events_map _ _).trans (Lookup.events_build engine caller statements)
  | get caller statements =>
    exact (Transcript.events_map _ _).trans (Lookup.events_get engine caller statements)

/-- Each of the four calls is disciplined, on every engine. -/
theorem disciplined_play (engine : Engine) (call : Call) :
    Disciplined (call.play engine).events := by
  rw [events_play]
  exact (engine call.query).play_disciplined call.query

end Call

/-! ### Sequences of calls -/

namespace Tally

/-- A tally counts what it says. -/
theorem countAll_eq (t : Tally) (events : List Event) :
    t.countAll events =
      ⟨t.connects + events.count .connect, t.entered + events.count .enter,
        t.left + events.count .leave⟩ := by
  induction events generalizing t with
  | nil => rfl
  | cons e events ih =>
    change (t.count e).countAll events = _
    rw [ih]
    cases e <;> simp [count, Nat.add_comm, Nat.add_left_comm]

/-- Between calls: so many connections were asked for, and what was entered was left. -/
structure Even (calls : Nat) (t : Tally) : Prop where
  connects_eq : t.connects = calls
  left_eq : t.left = t.entered

theorem Even.zero : Even 0 .zero where
  connects_eq := rfl
  left_eq := rfl

/-- Disciplined events preserve evenness, for one call more. -/
theorem Even.countAll {calls : Nat} {t : Tally} {events : List Event} (even : Even calls t)
    (disciplined : Disciplined events) : Even (calls + 1) (t.countAll events) := by
  rw [countAll_eq]
  constructor
  · rw [even.connects_eq, disciplined.connects_once]
  · rw [even.left_eq, disciplined.leaves_entered]

end Tally

namespace Call

/-- From an even tally, every call is played on its engine, keeps the discipline, and leaves an even
tally. -/
theorem playAll_even {calls : List (Engine × Call)} {n : Nat} {tally : Tally}
    (even : tally.Even n) (i : Nat) {t : Transcript Event LookupError Answer} {after : Tally}
    (at_i : (playAll tally calls)[i]? = some (t, after)) :
    Disciplined t.events ∧ after.Even (n + i + 1) := by
  -- On the calls, for every number of calls before them: one call moves the tally to the next.
  induction calls generalizing n tally i with
  | nil => cases at_i
  | cons first rest ih =>
    obtain ⟨engine, call⟩ := first
    have next := even.countAll (disciplined_play engine call)
    cases i with
    | zero =>
      cases at_i
      exact ⟨disciplined_play engine call, next⟩
    | succ i =>
      have later := ih next i at_i
      rwa [Nat.add_right_comm n 1 i] at later

/-- In a sequence of calls each does what it does alone. -/
theorem map_fst_playAll (tally : Tally) (calls : List (Engine × Call)) :
    (playAll tally calls).map Prod.fst = calls.map fun (engine, call) => call.play engine := by
  induction calls generalizing tally with
  | nil => rfl
  | cons first rest ih => exact congrArg (_ :: ·) (ih _)

/-- **Connection discipline.** In every sequence of calls, with any conduct of the store at each,
every call is played on its engine and keeps the discipline: one connection is asked for, then
entered at most once, then used for at most one statement, and then left exactly as often as it was
entered. So at each boundary between calls the connections that were left are those that were
entered, and as many were asked for as there were calls. -/
theorem playAll_disciplined (calls : List (Engine × Call)) :
    (playAll .zero calls).map Prod.fst = calls.map (fun (engine, call) => call.play engine) ∧
    ∀ i t tally, (playAll .zero calls)[i]? = some (t, tally) →
      Disciplined t.events ∧ tally.connects = i + 1 ∧ tally.left = tally.entered := by
  refine ⟨map_fst_playAll .zero calls, ?_⟩
  intro i t tally at_i
  obtain ⟨disciplined, even⟩ := playAll_even .zero i at_i
  rw [Nat.zero_add] at even
  exact ⟨disciplined, even.connects_eq, even.left_eq⟩

end Call

end AccessNotices
