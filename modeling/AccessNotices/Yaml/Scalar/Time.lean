import AccessNotices.Calendar.Moment
import AccessNotices.Yaml.Text
/-!
The dates and moments of scalars.

Month and day may have one digit; a plain scalar with a date alone is only spelled like one when it
has all its digits. The time may have a fraction, and an offset or the mark of universal time.
-/

namespace AccessNotices.Yaml.Scalar

open Calendar

/-- A number of one or two ASCII digits, and what follows it. -/
def shortNumber? (s : List Char) : Option (Nat × List Char) :=
  match takeNumber? 2 s with
  | some found => some found
  | none => takeNumber? 1 s

structure Clock where
  hour : Nat
  minute : Nat
  second : Nat
  microsecond : Nat
  offset : Option Int
  deriving DecidableEq, Repr

def offset? (sign : Char) (s : List Char) : Option Int := do
  let (hours, s) ← shortNumber? s
  let minutes ← match s with
    | [] => some 0
    | s => do
      let s ← skipChar? ':' s
      let (minutes, s) ← takeNumber? 2 s
      if s.isEmpty then some minutes else none
  let size : Int := ((hours * 60 + minutes) * 60000000 : Nat)
  some (if sign = '-' then -size else size)

/-- The mark of universal time or an offset, at the end of a scalar. -/
def zone? (s : List Char) : Option (Option Int) :=
  if s.isEmpty then some none
  else
    match s.dropWhile isGap with
    | ['Z'] => some (some 0)
    | sign :: rest => if sign = '+' ∨ sign = '-' then (offset? sign rest).map some else none
    | [] => none

/-- A time of day up to the end of a scalar. -/
def clock? (s : List Char) : Option Clock := do
  let (hour, s) ← shortNumber? s
  let s ← skipChar? ':' s
  let (minute, s) ← takeNumber? 2 s
  let s ← skipChar? ':' s
  let (second, s) ← takeNumber? 2 s
  let (microsecond, s) := takeFraction s
  let offset ← zone? s
  some ⟨hour, minute, second, microsecond, offset⟩

/-- The time of day behind a date. -/
def clockBehind? : List Char → Option Clock
  | [] => none
  | c :: rest =>
    if c = 'T' ∨ c = 't' then clock? rest
    else if isGap c then clock? (rest.dropWhile isGap)
    else none

/-- The numbers of a date, and of the time of day if there is one. -/
structure Written where
  year : Nat
  month : Nat
  day : Nat
  clock : Option Clock
  deriving DecidableEq, Repr

/-- The date or the moment that a scalar is written like. -/
def written? (s : List Char) : Option Written := do
  let (year, rest) ← takeNumber? 4 s
  let rest ← skipChar? '-' rest
  let (month, rest) ← shortNumber? rest
  let rest ← skipChar? '-' rest
  let (day, rest) ← shortNumber? rest
  if rest.isEmpty then some ⟨year, month, day, none⟩
  else (clockBehind? rest).map fun clock => ⟨year, month, day, some clock⟩

/-- Does a plain scalar spell a date or a moment? -/
def isTime (s : List Char) : Bool :=
  (written? s).any fun w => w.clock.isSome || s.length == 10

/-- The offset has to be less than a day; this is looked at before the date. -/
def checkOffset (offset : Option Int) : Except Calendar.Problem Unit :=
  match offset with
  | some span => if -dayLength < span ∧ span < dayLength then .ok () else .error (.offset span)
  | none => .ok ()

def Written.value (w : Written) : Except Calendar.Problem (Date ⊕ Moment) := do
  match w.clock with
  | none => (Date.ofParts w.year w.month w.day).map .inl
  | some clock =>
    checkOffset clock.offset
    let date ← Date.ofParts w.year w.month w.day
    let moment ←
      Moment.ofParts date clock.hour clock.minute clock.second clock.microsecond clock.offset
    .ok (.inr moment)

end AccessNotices.Yaml.Scalar
