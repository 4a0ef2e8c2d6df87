/-
Module: TapeMultiplier.Clock
Layer: Session
Purpose: A point in time to the microsecond and its texts.
Main exports: Clock, Clock.ofText?, Clock.ofMicroseconds, Clock.date, Clock.fileDate,
  Clock.stamp, Clock.isoText
-/
import TapeMultiplier.Text.Integer

namespace TapeMultiplier

/-- A point in time. -/
structure Clock where
  year : Nat
  month : Nat
  day : Nat
  hour : Nat
  minute : Nat
  second : Nat
  microsecond : Nat
deriving Repr, Inhabited, DecidableEq

namespace Clock

/-- The number of a run of decimal digits. -/
def number? (text : List Char) : Option Nat :=
  if text.isEmpty || !text.all (fun c => '0' ≤ c && c ≤ '9') then none
  else some (Text.ofDigits (text.map fun c => c.toNat - 48))

/-- A fraction of a second in microseconds: up to six digits behind a point, or nothing. -/
def fraction? (text : List Char) : Option Nat :=
  match text with
  | [] => some 0
  | '.' :: digits => number? ((digits ++ List.replicate (6 - digits.length) '0').take 6)
  | _ => none

/-- Read `YYYY-MM-DDTHH:MM:SS` with an optional fraction. -/
def ofText? (text : String) : Option Clock := do
  match text.toList with
  | y0 :: y1 :: y2 :: y3 :: '-' :: m0 :: m1 :: '-' :: d0 :: d1 :: _ :: rest =>
      match rest with
      | h0 :: h1 :: ':' :: n0 :: n1 :: ':' :: s0 :: s1 :: fraction =>
          return {
            year := ← number? [y0, y1, y2, y3]
            month := ← number? [m0, m1]
            day := ← number? [d0, d1]
            hour := ← number? [h0, h1]
            minute := ← number? [n0, n1]
            second := ← number? [s0, s1]
            microsecond := ← fraction? fraction }
      | _ => none
  | _ => none

/-- Year, month and day of a day counted from the first of January 1970.  Years are counted from March,
so that the leap day is the last day of a year, in eras of four hundred years. -/
def dateOfDay (day : Nat) : Nat × Nat × Nat :=
  let shifted := day + 719468
  let era := shifted / 146097
  let dayOfEra := shifted % 146097
  let yearOfEra := (dayOfEra - dayOfEra / 1460 + dayOfEra / 36524 - dayOfEra / 146096) / 365
  let dayOfYear := dayOfEra - (365 * yearOfEra + yearOfEra / 4 - yearOfEra / 100)
  let monthFromMarch := (5 * dayOfYear + 2) / 153
  let day := dayOfYear - (153 * monthFromMarch + 2) / 5 + 1
  let month := if monthFromMarch < 10 then monthFromMarch + 3 else monthFromMarch - 9
  (yearOfEra + era * 400 + (if month ≤ 2 then 1 else 0), month, day)

/-- The point in time that is a number of microseconds after the start of 1970, universal time. -/
def ofMicroseconds (count : Nat) : Clock :=
  let seconds := count / 1000000
  let (year, month, day) := dateOfDay (seconds / 86400)
  { year, month, day
    hour := seconds / 3600 % 24
    minute := seconds / 60 % 60
    second := seconds % 60
    microsecond := count % 1000000 }

/-- The date: year, month and day with dashes. -/
def date (clock : Clock) : String :=
  Text.padded 4 clock.year ++ "-" ++ Text.padded 2 clock.month ++ "-" ++ Text.padded 2 clock.day

/-- The date as file names carry it: the year is written without leading zeros. -/
def fileDate (clock : Clock) : String :=
  Text.decimal clock.year ++ "-" ++ Text.padded 2 clock.month ++ "-" ++ Text.padded 2 clock.day

/-- The time of day; a fraction is shown with six digits unless it is zero. -/
def time (clock : Clock) : String :=
  Text.padded 2 clock.hour ++ ":" ++ Text.padded 2 clock.minute ++ ":" ++
    Text.padded 2 clock.second ++
    if clock.microsecond = 0 then "" else "." ++ Text.padded 6 clock.microsecond

/-- Date and time with a space between them. -/
def stamp (clock : Clock) : String :=
  clock.date ++ " " ++ clock.time

/-- Date and time in universal time. -/
def isoText (clock : Clock) : String :=
  clock.date ++ "T" ++ clock.time ++ "+00:00"

end Clock

end TapeMultiplier
