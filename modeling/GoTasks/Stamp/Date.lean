/-!
# Dates

An instant is counted in seconds from the start of 1970. It is written in UTC, to the second,
as year, month, day and time of day. Days are turned into a date with the usual reckoning
that starts each year in March, so that the leap day comes last and 400 years repeat exactly.
-/

namespace GoTasks

/-- A point in time. A thousand million nanoseconds or more stand for a leap second. -/
structure Instant where
  seconds : Int
  nanoseconds : Nat
  deriving DecidableEq, Repr

/-- A day of the calendar. -/
structure CalendarDate where
  year : Int
  month : Nat
  day : Nat
  deriving DecidableEq, Repr

namespace CalendarDate

/-- The days from the first of March of the year 0 to the start of 1970. -/
def epochOffset : Int := 719468

def daysPerEra : Int := 146097

/-- The date of a day, counted from the start of 1970. -/
def ofDays (days : Int) : CalendarDate :=
  let shifted := days + epochOffset
  let era := shifted / daysPerEra
  let dayOfEra := (shifted % daysPerEra).toNat
  let yearOfEra := (dayOfEra - dayOfEra / 1460 + dayOfEra / 36524 - dayOfEra / 146096) / 365
  let dayOfYear := dayOfEra - (365 * yearOfEra + yearOfEra / 4 - yearOfEra / 100)
  let monthFromMarch := (5 * dayOfYear + 2) / 153
  let day := dayOfYear - (153 * monthFromMarch + 2) / 5 + 1
  let month := if monthFromMarch < 10 then monthFromMarch + 3 else monthFromMarch - 9
  let year := (yearOfEra : Int) + era * 400 + (if month ≤ 2 then 1 else 0)
  ⟨year, month, day⟩

end CalendarDate

namespace Instant

/-- A number with zeros before it, up to a width. -/
def padded (width n : Nat) : String :=
  let digits := toString n
  "".pushn '0' (width - digits.length) ++ digits

/-- A year: four digits, and a sign as soon as four digits do not name it. -/
def yearText (year : Int) : String :=
  if 0 ≤ year ∧ year ≤ 9999 then padded 4 year.toNat
  else (if year < 0 then "-" else "+") ++ padded 4 year.natAbs

/-- The second of the minute that is written; a leap second is the one after the last. -/
def writtenSecond (i : Instant) : Nat :=
  (i.seconds % 60).toNat + i.nanoseconds / 1000000000

def text (i : Instant) : String :=
  let date := CalendarDate.ofDays (i.seconds / 86400)
  let time := (i.seconds % 86400).toNat
  yearText date.year ++ "-" ++ padded 2 date.month ++ "-" ++ padded 2 date.day ++ "T" ++
    padded 2 (time / 3600) ++ ":" ++ padded 2 (time / 60 % 60) ++ ":" ++
    padded 2 i.writtenSecond ++ "Z"

end Instant
end GoTasks
