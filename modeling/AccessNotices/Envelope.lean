import AccessNotices.Json.Printer
import AccessNotices.Record
import AccessNotices.Vocabulary
/-!
Envelopes: what a caller gets back, records on success and a description on failure.

An envelope is decided from the outcome of a lookup. A lookup that failed and a lookup that found
nothing both give a failure; only rows are assembled into records, so `Envelope.decide` asks for
records at most once and never for none. It works in any monad that the assembly needs.
-/

namespace AccessNotices

/-- What came back from the store: rows in its order, or the message of a failure. -/
inductive Outcome where
  | rows (rows : List Row)
  | failed (message : String)

namespace Outcome

def succeeded : Outcome → Bool
  | rows _ => true
  | failed _ => false

end Outcome

/-- Why there are no records. The status travels beside the object and is no part of it. -/
structure Failure where
  status : Status
  name : ResponseName
  detail : String
  deriving DecidableEq, Repr

namespace Failure

/-- What the detail of an empty lookup starts with. -/
def notFoundPrelude : String := "Access request not found, for the server : "

def notFound (url : String) : Failure :=
  ⟨.notFound, .resourceNotFound, notFoundPrelude ++ url⟩

def database : Failure :=
  ⟨.internalServerError, .databaseError,
    "Notifications could not be fetched" ++ ", Failure while executing query"⟩

def toJson (f : Failure) : Json :=
  .object
    [("type", .int f.status.code), ("title", .string f.name.urn), ("detail", .string f.detail)]

def encoded (f : Failure) : String :=
  f.toJson.compact

end Failure

/-- The response to a lookup. -/
inductive Envelope where
  | success (records : List Row)
  | failure (f : Failure)

namespace Envelope

/-- The envelope for an outcome, with a way to assemble rows into records. -/
def decide {m : Type → Type} [Monad m] (outcome : Outcome)
    (assemble : List Row → m (List Row)) (url : String) : m Envelope :=
  match outcome with
  | .failed _ => pure (.failure .database)
  | .rows [] => pure (.failure (.notFound url))
  | .rows rows => do
    let records ← assemble rows
    pure (.success records)

def status : Envelope → Status
  | success _ => .success
  | failure f => f.status

def successJson (records : List Row) : Except WritingError Json := do
  let items ← records.mapM Row.toJson
  .ok (.object
    [("result", .object
       [("type", .string ResponseName.success.urn), ("title", .string ResponseName.success.message),
        ("result", .array items)]),
     ("statusCode", .int Status.success.code)])

def toJson : Envelope → Except WritingError Json
  | success records => successJson records
  | failure f => .ok f.toJson

open Validation

/-- The issues of a list of values that should all be mappings, from a given index on. -/
def recordIssues : Nat → List Value → List Issue
  | _, [] => []
  | i, .map _ :: rest => recordIssues (i + 1) rest
  | i, _ :: rest => ⟨[.field "result", .index i], .notMapping⟩ :: recordIssues (i + 1) rest

def rowOf (entries : List (Value × Value)) : Row :=
  .ofList (entries.filterMap fun (k, v) => k.asText?.map (·, v))

def successOf : Value → Except Report Envelope
  | .list items =>
    let issues := recordIssues 0 items
    if issues.isEmpty then
      .ok (.success (items.filterMap fun
        | .map entries => some (rowOf entries)
        | _ => none))
    else .error ⟨"NotificationResult", issues⟩
  | _ => .error ⟨"NotificationResult", [⟨[.field "result"], .notList⟩]⟩

end Envelope

end AccessNotices
