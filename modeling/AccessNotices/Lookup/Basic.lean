import AccessNotices.Caller
import AccessNotices.Envelope
import AccessNotices.Session.Basic
import AccessNotices.Transcript
/-!
Lookups: the notices of a caller, from the store to the envelope.

A lookup runs one statement in one session. A failure of the store becomes a failed outcome and is
logged; a fault that is foreign to the store is passed on as it is. The caller's role decides three
things at once: the statement, the side on which the caller stands in the records, and the columns
from which the other party is taken.
-/

namespace AccessNotices

inductive LookupError where
  /-- The store failed. -/
  | storeFailed (message : String)
  /-- Something else went wrong in the session. -/
  | foreign (f : Fault)
  /-- There are no records for the caller. -/
  | notFetched (f : Failure)
  /-- Something has to be written and cannot. -/
  | unwritable (e : WritingError)

def LookupError.message? : LookupError → Option String
  | storeFailed message => some message
  | foreign f => f.message?
  | notFetched f => some f.encoded
  | unwritable e => e.message?

/-- The status that goes with an error: that of the failure which it carries. -/
def LookupError.status? : LookupError → Option Status
  | notFetched f => some f.status
  | _ => none

/-- The error that a fault of a session becomes: of a failure of the store only the message is kept,
and where that cannot be written, this is what fails. -/
def LookupError.ofFault (f : Fault) : LookupError :=
  if f.isStoreFailure then
    match f.message? with
    | some message => .storeFailed message
    | none => .unwritable .longInteger
  else .foreign f

namespace Lookup

open Transcript

def session (engine : Engine) (q : Query) : Transcript Event LookupError (List Row) :=
  ((engine q).play q).within id .ofFault

def fetch (engine : Engine) (q : Query) : Transcript Event LookupError (List Row) := do
  let rows ← session engine q
  note .debug .session ("Fetched " ++ Number.natString rows.length ++ " notification rows for " ++
    q.parameters.resourceServerUrl)
  pure rows

/-- The work with a failure of the store caught as an outcome. -/
def catchStoreFailure (t : Transcript Event LookupError (List Row)) :
    Transcript Event LookupError Outcome :=
  match t.result with
  | .ok rows => ⟨t.events, t.log, .ok (.rows rows)⟩
  | .error (.storeFailed message) =>
    ⟨t.events, t.log ++ [⟨.error, .session, "Error response : " ++ message⟩],
      .ok (.failed message)⟩
  | .error e => ⟨t.events, t.log, .error e⟩

def run (engine : Engine) (q : Query) : Transcript Event LookupError Outcome :=
  catchStoreFailure (fetch engine q)

def queryFor (caller : Caller) (statements : Statements) : Query :=
  ⟨statements.get (Perspective.classify caller.role).selector,
    ⟨caller.id.uuid.toString, caller.resourceServerUrl⟩⟩

def roleText : Value → String
  | .role r => r.text
  | v => v.display

/-- What is logged before the store is asked. -/
def dispatchMessage (caller : Caller) : String :=
  let p := Perspective.classify caller.role
  "Fetching " ++ p.selector.text ++ " for role=" ++ roleText caller.role ++ " perspective=" ++
    p.text

def report (outcome : Outcome) (caller : Caller) : Envelope → Transcript Event LookupError Unit
  | .failure _ => do
    if outcome.succeeded then
      note .error .notices
        ("No Request found for the resource server: " ++ caller.resourceServerUrl)
    note .error .notices "Failure while executing GET notifications request"
  | .success _ => note .info .notices "success while executing GET notifications request"

def assemble (caller : Caller) (rows : List Row) : Transcript Event LookupError (List Row) :=
  ofExcept ((Row.assembleAll caller.party (Perspective.classify caller.role)
    (.text caller.resourceServerUrl) rows).mapError .unwritable)

def build (engine : Engine) (caller : Caller) (statements : Statements) :
    Transcript Event LookupError Envelope := do
  note .debug .notices (dispatchMessage caller)
  let outcome ← run engine (queryFor caller statements)
  let envelope ← Envelope.decide outcome (assemble caller) caller.resourceServerUrl
  report outcome caller envelope
  pure envelope

def get (engine : Engine) (caller : Caller) (statements : Statements) :
    Transcript Event LookupError Envelope := do
  match ← build engine caller statements with
  | .failure f => fail (.notFetched f)
  | .success records => pure (.success records)

end Lookup

inductive Call where
  | fetch (q : Query)
  | run (q : Query)
  | build (caller : Caller) (statements : Statements)
  | get (caller : Caller) (statements : Statements)

inductive Answer where
  | rows (rows : List Row)
  | outcome (o : Outcome)
  | envelope (e : Envelope)

namespace Call

def play (engine : Engine) : Call → Transcript Event LookupError Answer
  | fetch q => Answer.rows <$> Lookup.fetch engine q
  | run q => Answer.outcome <$> Lookup.run engine q
  | build caller statements => Answer.envelope <$> Lookup.build engine caller statements
  | get caller statements => Answer.envelope <$> Lookup.get engine caller statements

/-- A sequence of calls, each with the conduct of the engine at that call: the transcript of each
and the counts after it, which go on from call to call. -/
def playAll : Tally → List (Engine × Call) → List (Transcript Event LookupError Answer × Tally)
  | _, [] => []
  | tally, (engine, call) :: rest =>
    let t := call.play engine
    let tally := tally.countAll t.events
    (t, tally) :: playAll tally rest

end Call

end AccessNotices
