import Gazette.Number.Digits
import Gazette.Time.Calendar

/-!
# Instants

A point in time on the UTC scale: `Instant`. A leap second is the last second of its minute with a second more
in its fraction, so it has a place of its own between two minutes.
-/

namespace Gazette.Time

/-- A point in time, in UTC. -/
structure Instant where
  /-- Days since 1970-01-01. -/
  day : Int
  /-- The second of the day, below 86400. -/
  second : Nat
  /-- Nanoseconds within the second; from 1000000000 on they lie in a leap second. -/
  nano : Nat
deriving DecidableEq, Repr

/-- The last `width` or more decimal digits of a number, zeros in front. -/
def padded (width n : Nat) : List Char :=
  let digits := Number.decimal n
  List.replicate (width - digits.length) '0' ++ digits

/-- A year in four digits, with a sign where four digits do not hold it. -/
def yearText (year : Int) : List Char :=
  if 0 ≤ year ∧ year ≤ 9999 then padded 4 year.toNat
  else (if year < 0 then '-' else '+') :: padded 4 year.natAbs

namespace Instant

def date (t : Instant) : Date := Date.ofDays t.day

/-- The second of the minute; 60 in a leap second. -/
def secondOfMinute (t : Instant) : Nat := t.second % 60 + t.nano / 1000000000

/-- The `date` as `2023-08-23`. -/
def dateText (t : Instant) : List Char :=
  let d := t.date
  yearText d.year ++ '-' :: padded 2 d.month ++ '-' :: padded 2 d.day

/-- The time of day as `12:01:00`. -/
def clockText (t : Instant) : List Char :=
  padded 2 (t.second / 3600) ++ ':' :: padded 2 (t.second / 60 % 60) ++
    ':' :: padded 2 t.secondOfMinute

/-- The fraction of the second in three, six or nine digits, as few as hold it, after a point. No
fraction is no text. -/
def fractionText (t : Instant) : List Char :=
  let nano := t.nano % 1000000000
  if nano = 0 then []
  else if nano % 1000000 = 0 then '.' :: padded 3 (nano / 1000000)
  else if nano % 1000 = 0 then '.' :: padded 6 (nano / 1000)
  else '.' :: padded 9 nano

/-- An instant as `2023-08-23T12:01:00Z`: `dateText`, `clockText` and `fractionText`. -/
def toText (t : Instant) : List Char :=
  t.dateText ++ 'T' :: t.clockText ++ t.fractionText ++ ['Z']

/-- An instant as `2023-08-23 12:01:00`: `dateText` and `clockText`. -/
def toDisplay (t : Instant) : List Char := t.dateText ++ ' ' :: t.clockText

end Instant

end Gazette.Time
