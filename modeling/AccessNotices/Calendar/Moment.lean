import AccessNotices.Calendar.Date
import AccessNotices.Text.Digit
/-!
Moments: a date with a time of day to the microsecond, and possibly an offset from universal time.

Their written form is the date, a separating character, and the time; the microseconds appear only
when there are any, the offset only when it is known. The form for interchange gives the offset in
hours and minutes and drops what is left.
-/

namespace AccessNotices.Calendar

open Number Text

/-- A date with a time of day. The offset counts microseconds east of universal time. -/
structure Moment where
  date : Date
  hour : Nat
  minute : Nat
  second : Nat
  microsecond : Nat
  offset : Option Int
  hour_lt : hour < 24
  minute_lt : minute < 60
  second_lt : second < 60
  deriving DecidableEq

namespace Moment

def ofParts (date : Date) (hour minute second microsecond : Nat) (offset : Option Int) :
    Except Problem Moment :=
  if hh : hour < 24 then
    if hm : minute < 60 then
      if hs : second < 60 then
        match offset with
        | none => .ok ⟨date, hour, minute, second, microsecond, none, hh, hm, hs⟩
        | some span =>
          if -dayLength < span ∧ span < dayLength then
            .ok ⟨date, hour, minute, second, microsecond, some span, hh, hm, hs⟩
          else .error (.offset span)
      else .error .second
    else .error .minute
  else .error .hour

def hoursText (negative : Bool) (seconds : Nat) : List Char :=
  (if negative then '-' else '+') :: padded 2 (seconds / 3600) ++
    ':' :: padded 2 (seconds / 60 % 60)

def fractionText (microseconds : Nat) : List Char :=
  if microseconds = 0 then [] else '.' :: padded 6 microseconds

/-- An offset as sign, hours, minutes, and what is left if there is anything. -/
def offsetText (offset : Int) : List Char :=
  let rest := offset.natAbs % 60000000
  let seconds :=
    if rest = 0 then [] else ':' :: padded 2 (rest / 1000000) ++ fractionText (rest % 1000000)
  hoursText (offset < 0) (offset.natAbs / 1000000) ++ seconds

/-- The size of an offset in whole seconds; a half goes up. -/
def wholeSeconds (offset : Int) : Nat :=
  (offset.natAbs + 500000) / 1000000

/-- The time of day, with the microseconds if there are any. -/
def timeText (m : Moment) : List Char :=
  padded 2 m.hour ++ ':' :: padded 2 m.minute ++ ':' :: padded 2 m.second ++
    fractionText m.microsecond

/-- The moment with a given character between date and time, and a given text for the offset. -/
def textWith (separator : Char) (offsetText : Int → List Char) (m : Moment) : List Char :=
  m.date.text ++ separator :: m.timeText ++
    (match m.offset with
      | some offset => offsetText offset
      | none => [])

def text (separator : Char) (m : Moment) : List Char :=
  m.textWith separator offsetText

/-- The moment as a text for interchange: universal time is marked by a `Z`, any other offset is in
hours and minutes. -/
def interchangeText (m : Moment) : List Char :=
  m.textWith 'T' fun offset =>
    if wholeSeconds offset = 0 then ['Z'] else hoursText (offset < 0) (wholeSeconds offset)

/-- Microseconds since the first day of the calendar, at the offset's meridian. -/
def localMicroseconds (m : Moment) : Int :=
  (((m.date.ordinal * 24 + m.hour) * 60 + m.minute) * 60 + m.second : Nat) * 1000000
    + m.microsecond

/-- Two moments are the same time when both have offsets and agree in universal time, or neither
has one and they agree as they are. -/
def sameTime (a b : Moment) : Bool :=
  match a.offset, b.offset with
  | none, none => a.localMicroseconds == b.localMicroseconds
  | some x, some y => a.localMicroseconds - x == b.localMicroseconds - y
  | _, _ => false

end Moment

/-- A number of exactly `width` ASCII digits, and what follows it. -/
def takeNumber? (width : Nat) (s : List Char) : Option (Nat × List Char) :=
  let digits := s.take width
  if digits.length = width ∧ digits.all Char.isDigit then
    some (Nat.ofDigitChars 10 digits 0, s.drop width)
  else none

/-- The rest of a text behind a given character. -/
def skipChar? (c : Char) : List Char → Option (List Char)
  | d :: rest => if c = d then some rest else none
  | [] => none

/-- The first six places of a fraction of a second, as microseconds. -/
def microsecondsOf (digits : List Char) : Nat :=
  let six := digits.take 6
  Nat.ofDigitChars 10 (six ++ List.replicate (6 - six.length) '0') 0

/-- A fraction of a second in microseconds, and what follows it. -/
def takeFraction : List Char → Nat × List Char
  | '.' :: s => (microsecondsOf (s.takeWhile Char.isDigit), s.dropWhile Char.isDigit)
  | s => (0, s)

/-- A date at the start of a text in interchange form. -/
def takeDate? (s : List Char) : Option (Date × List Char) := do
  let (year, s) ← takeNumber? 4 s
  let s ← skipChar? '-' s
  let (month, s) ← takeNumber? 2 s
  let s ← skipChar? '-' s
  let (day, s) ← takeNumber? 2 s
  let date ← (Date.ofParts year month day).toOption
  some (date, s)

/-- The date of a text in interchange form. -/
def readDate? (s : List Char) : Option Date :=
  match takeDate? s with
  | some (date, []) => some date
  | _ => none

/-- The offset at the end of a text in interchange form. -/
def readOffset? : List Char → Option (Option Int)
  | [] => some none
  | ['Z'] => some (some 0)
  | sign :: s => do
    let negative ← if sign = '-' then some true else if sign = '+' then some false else none
    let (hours, s) ← takeNumber? 2 s
    let s ← skipChar? ':' s
    let (minutes, s) ← takeNumber? 2 s
    let (seconds, fraction, s) ← match s with
      | [] => some (0, 0, [])
      | s => do
        let s ← skipChar? ':' s
        let (seconds, s) ← takeNumber? 2 s
        let (fraction, s) := takeFraction s
        some (seconds, fraction, s)
    let size : Int := ((hours * 3600 + minutes * 60 + seconds) * 1000000 + fraction : Nat)
    if s.isEmpty then some (some (if negative then -size else size)) else none

/-- The moment of a text in interchange form. -/
def readMoment? (s : List Char) : Option Moment := do
  let (date, s) ← takeDate? s
  let s := s.drop 1
  let (hour, s) ← takeNumber? 2 s
  let s ← skipChar? ':' s
  let (minute, s) ← takeNumber? 2 s
  let s ← skipChar? ':' s
  let (second, s) ← takeNumber? 2 s
  let (microsecond, s) := takeFraction s
  let offset ← readOffset? s
  (Moment.ofParts date hour minute second microsecond offset).toOption

end AccessNotices.Calendar
