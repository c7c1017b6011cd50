import AccessNotices.Text.Utf8
import AccessNotices.Value.Display
/-!
Faults: what breaks off a session with the store.

A store failure comes from the system, a timeout, the database layer or its driver; it is caught and
becomes the outcome of a lookup. Anything else is foreign to the store and is passed on. What is
known of a fault are its details, and its message is made of them. It has none if a detail that
belongs to it cannot be written.
-/

namespace AccessNotices

open Text

/-- The names of errors that are caught; the last one is what a failed session raises itself. -/
def caughtKinds : List String :=
  ["SQLAlchemyError", "OSError", "TimeoutError", "DatabaseExecutionError"]

/-- A fault that has nothing to do with the store. -/
inductive ForeignFault where
  | badValue
  | failedRun
  | missingKey
  | cancelled
  /-- Any other, by the name of its kind. -/
  | other (kind : String) (passedOn : kind ∉ caughtKinds)
  deriving DecidableEq, Repr

/-- Where a fault comes from. What the database layer and its driver say may have a tail: the
statement with its parameters, and where to read more. -/
inductive FaultOrigin where
  /-- The system. What would have to be waited for is told by the number of the error. -/
  | system
  /-- The system, which would have to wait. -/
  | blocked
  /-- A connection that is refused, broken or reset. -/
  | connection
  | timeout
  | database (tail : String)
  /-- The driver, with the name of the error that it reports. -/
  | driver (error tail : String)
  | foreign (f : ForeignFault)
  deriving DecidableEq, Repr

/-- A fault, with what is known about it. -/
structure Fault where
  origin : FaultOrigin
  details : List Value

namespace Fault

/-- Is the fault a failure of the store? -/
def isStoreFailure (f : Fault) : Bool :=
  match f.origin with
  | .foreign _ => false
  | _ => true

/-- Details in a row, each shown with its kind. -/
def listed? (details : List Value) : Option String :=
  if Value.areWritable details then some (Value.bracketed "(" ")" (Value.literals details)) else none

/-- Details as a message: nothing, the one detail, or all in a row. -/
def plainMessage? : List Value → Option String
  | [] => some ""
  | [v] => v.written?
  | details => listed? details

/-- An error number and its meaning, and what it happened to: nothing if the subject is null, else
the subject, and where it should have gone if there is such a place. -/
def numberedMessage? (number meaning subject target : Value) : Option String := do
  let number ← number.written?
  let meaning ← meaning.written?
  let about ← match subject, target with
    | .null, _ => some ""
    | subject, .null => subject.writtenLiteral?.map (": " ++ ·)
    | subject, target => do some (": " ++ (← subject.writtenLiteral?) ++ " -> " ++
        (← target.writtenLiteral?))
  some ("[Errno " ++ number ++ "] " ++ meaning ++ about)

/-- The numbers of the errors that stand for having to wait. -/
def blockedNumbers : List Int := [11, 114, 115]

/-- Does an error stand for having to wait? -/
def isBlocked (origin : FaultOrigin) (number : Value) : Bool :=
  match origin, number with
  | .blocked, _ => true
  | .system, .int n => blockedNumbers.contains n
  | _, _ => false

/-- The subject of an error of the system. Where one has to wait, an integer in its place says how
much was written so far, and is not shown. -/
def subjectOf (blocked : Bool) (v : Value) : Value :=
  match blocked, v with
  | true, .int _ | true, .bool _ => .null
  | _, v => v

/-- Details of a fault of the system: two to five are an error number, its meaning, the subject, a
second number that is not shown, and the subject's target. -/
def systemMessage? (origin : FaultOrigin) : List Value → Option String
  | number :: meaning :: rest =>
    let subject := subjectOf (isBlocked origin number)
    match rest with
    | [] => numberedMessage? number meaning .null .null
    | [v] => numberedMessage? number meaning (subject v) .null
    | [v, _] => numberedMessage? number meaning (subject v) .null
    | [v, _, target] => numberedMessage? number meaning (subject v) target
    | _ => listed? (number :: meaning :: rest)
  | details => plainMessage? details

/-- Details of a fault of the database layer. A single byte string is read as UTF-8, and the bytes
that are not are shown by their codes. -/
def databaseMessage? : List Value → Option String
  | [.bytes b] => some (String.ofList (Utf8.decodeEscaping b))
  | [v] => v.written?
  | details => listed? details

/-- Details of a missing key: the key is shown with its kind. -/
def keyMessage? : List Value → Option String
  | [key] => key.writtenLiteral?
  | details => plainMessage? details

/-- Details of a fault of the driver. If they cannot be written, it says why. -/
def driverMessage (details : List Value) : String :=
  (plainMessage? details).getD
    ("Error in str() of DB-API-generated exception: " ++ Number.longIntegerText)

/-- The wording of a fault; nothing if a detail that belongs to it cannot be written. -/
def message? (f : Fault) : Option String :=
  match f.origin with
  | .system | .blocked | .connection | .timeout => systemMessage? f.origin f.details
  | .database tail => (databaseMessage? f.details).map (· ++ tail)
  | .driver error tail => some ("(" ++ error ++ ") " ++ driverMessage f.details ++ tail)
  | .foreign .missingKey => keyMessage? f.details
  | .foreign _ => plainMessage? f.details

end Fault

end AccessNotices
