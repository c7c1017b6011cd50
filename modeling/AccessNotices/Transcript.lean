import AccessNotices.Log
/-!
Transcripts: what a piece of work does, what it logs, and what comes of it.

Transcripts are put together in order; a piece of work that fails ends the transcript, and what it
did and logged before stays. Main statements: what comes of one piece of work after another
(`bind_of_ok`, `bind_of_error`), and which events there are if only the first piece has any
(`events_bind_of_silent`).
-/

namespace AccessNotices

/-- Events of type `η` and log entries, in order, and a result. -/
structure Transcript (η ε α : Type) where
  events : List η
  log : List LogEntry
  result : Except ε α

namespace Transcript

variable {η θ ε δ α β : Type}

def ofExcept (result : Except ε α) : Transcript η ε α :=
  ⟨[], [], result⟩

/-- One piece of work after another. -/
def andThen (t : Transcript η ε α) (next : α → Transcript η ε β) : Transcript η ε β :=
  match t.result with
  | .ok a =>
    let u := next a
    ⟨t.events ++ u.events, t.log ++ u.log, u.result⟩
  | .error e => ⟨t.events, t.log, .error e⟩

instance : Monad (Transcript η ε) where
  pure a := ofExcept (.ok a)
  bind := andThen

def note (severity : Severity) (source : LogSource) (message : String) : Transcript η ε Unit :=
  ⟨[], [⟨severity, source, message⟩], .ok ()⟩

/-- An event. -/
def act (e : η) : Transcript η ε Unit :=
  ⟨[e], [], .ok ()⟩

def fail (e : ε) : Transcript η ε α :=
  ofExcept (.error e)

/-- The same work as a part of other work, with its events and errors seen from there. -/
def within (event : η → θ) (error : ε → δ) (t : Transcript η ε α) : Transcript θ δ α :=
  ⟨t.events.map event, t.log, t.result.mapError error⟩

/-- The work between two events, the second of which comes however the work ends. -/
def between (first last : η) (t : Transcript η ε α) : Transcript η ε α :=
  ⟨first :: t.events ++ [last], t.log, t.result⟩

/-- The same work, with an error that covers whatever came of it, if there is one. -/
def coveredBy (error : Option ε) (t : Transcript η ε α) : Transcript η ε α :=
  match error with
  | some e => ⟨t.events, t.log, .error e⟩
  | none => t

/-! ### One piece of work after another -/

theorem bind_of_ok {t : Transcript η ε α} {a : α} (h : t.result = .ok a)
    (next : α → Transcript η ε β) :
    t >>= next = ⟨t.events ++ (next a).events, t.log ++ (next a).log, (next a).result⟩ := by
  change t.andThen next = _
  rw [andThen, h]

theorem bind_of_error {t : Transcript η ε α} {e : ε} (h : t.result = .error e)
    (next : α → Transcript η ε β) : t >>= next = ⟨t.events, t.log, .error e⟩ := by
  change t.andThen next = _
  rw [andThen, h]

@[simp] theorem note_bind (severity : Severity) (source : LogSource) (message : String)
    (next : Unit → Transcript η ε β) :
    note severity source message >>= next =
      ⟨(next ()).events, ⟨severity, source, message⟩ :: (next ()).log, (next ()).result⟩ := rfl

@[simp] theorem ofExcept_ok_bind (a : α) (next : α → Transcript η ε β) :
    ofExcept (.ok a) >>= next = next a := rfl

@[simp] theorem ofExcept_error_bind (e : ε) (next : α → Transcript η ε β) :
    ofExcept (.error e) >>= next = fail e := rfl

/-- Work that is followed by work without events has all the events. -/
theorem events_bind_of_silent (t : Transcript η ε α) (next : α → Transcript η ε β)
    (silent : ∀ a, (next a).events = []) : (t >>= next).events = t.events := by
  cases h : t.result with
  | ok a => rw [bind_of_ok h, silent a, List.append_nil]
  | error e => rw [bind_of_error h]

@[simp] theorem events_map (f : α → β) (t : Transcript η ε α) : (f <$> t).events = t.events :=
  events_bind_of_silent t _ fun _ => rfl

end Transcript

end AccessNotices
