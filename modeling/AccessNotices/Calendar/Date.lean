import AccessNotices.Number.Integer
/-!
Dates of the proleptic Gregorian calendar, years 1 to 9999, and spans of time in microseconds.

A `Date` cannot hold a day that the calendar does not have; `Date.ofParts` is where days are refused
and says why. A span is shown by its days, which may be negative, and the seconds and microseconds
of the last day, which may not.
-/

namespace AccessNotices.Calendar

open Number

def secondLength : Int := 1000000

def dayLength : Int := 86400000000

/-- The text of a span. A part that is zero is left out, unless all are. -/
def spanText (span : Int) : String :=
  let part (name : String) (n : Int) := if n = 0 then [] else [name ++ "=" ++ intString n]
  let rest := span.fmod dayLength
  let parts := part "days" (span.fdiv dayLength) ++ part "seconds" (rest.fdiv secondLength) ++
    part "microseconds" (rest.fmod secondLength)
  "datetime.timedelta(" ++ (if parts.isEmpty then "0" else ", ".intercalate parts) ++ ")"

inductive Problem where
  | year (n : Nat)
  | month
  | day
  | hour
  | minute
  | second
  | offset (span : Int)
  deriving DecidableEq, Repr

def Problem.message : Problem → String
  | .year n => "year " ++ intString n ++ " is out of range"
  | .month => "month must be in 1..12"
  | .day => "day is out of range for month"
  | .hour => "hour must be in 0..23"
  | .minute => "minute must be in 0..59"
  | .second => "second must be in 0..59"
  | .offset span =>
    "offset must be a timedelta strictly between -timedelta(hours=24) and " ++
      "timedelta(hours=24), not " ++ spanText span ++ "."

def isLeap (year : Nat) : Bool :=
  year % 4 == 0 && (year % 100 != 0 || year % 400 == 0)

def monthLength (year month : Nat) : Nat :=
  if month = 2 then if isLeap year then 29 else 28
  else if month = 4 ∨ month = 6 ∨ month = 9 ∨ month = 11 then 30
  else 31

structure Date where
  year : Nat
  month : Nat
  day : Nat
  year_mem : 1 ≤ year ∧ year ≤ 9999
  month_mem : 1 ≤ month ∧ month ≤ 12
  day_mem : 1 ≤ day ∧ day ≤ monthLength year month
  deriving DecidableEq

namespace Date

/-- The day with the given numbers, if the calendar has it. -/
def ofParts (year month day : Nat) : Except Problem Date :=
  if hy : 1 ≤ year ∧ year ≤ 9999 then
    if hm : 1 ≤ month ∧ month ≤ 12 then
      if hd : 1 ≤ day ∧ day ≤ monthLength year month then .ok ⟨year, month, day, hy, hm, hd⟩
      else .error .day
    else .error .month
  else .error (.year year)

def text (d : Date) : List Char :=
  padded 4 d.year ++ '-' :: padded 2 d.month ++ '-' :: padded 2 d.day

def daysOfMonths (year : Nat) : Nat → Nat
  | 0 => 0
  | m + 1 => daysOfMonths year m + monthLength year (m + 1)

/-- How many days of the calendar come before this one. -/
def ordinal (d : Date) : Nat :=
  let y := d.year - 1
  y * 365 + y / 4 - y / 100 + y / 400 + daysOfMonths d.year (d.month - 1) + (d.day - 1)

end Date

end AccessNotices.Calendar
