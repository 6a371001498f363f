import QueryKit.Number.Printer

/-! Days of the proleptic Gregorian calendar, with a year 0 and years before it, and their numbering
by days from the first day of 2000. -/

namespace QueryKit

namespace Calendar

/-- The year has a 29th of February. -/
def isLeap (year : Int) : Bool :=
  year % 4 == 0 && (year % 100 != 0 || year % 400 == 0)

/-- The days of a month. -/
def monthDays (year : Int) (month : Nat) : Nat :=
  match month with
  | 1 | 3 | 5 | 7 | 8 | 10 | 12 => 31
  | 4 | 6 | 9 | 11 => 30
  | 2 => if isLeap year then 29 else 28
  | _ => 0

/-- The first supported year. -/
def minYear : Int := -262143

/-- The last supported year. -/
def maxYear : Int := 262142

/-- The numbers name a day of a supported year. -/
def isDay (year : Int) (month day : Nat) : Bool :=
  minYear ≤ year && year ≤ maxYear && 1 ≤ day && day ≤ monthDays year month

end Calendar

/-- A day. -/
structure Date where
  year : Int
  month : Nat
  day : Nat
  valid : Calendar.isDay year month day = true
deriving DecidableEq

namespace Date

/-- The day with the given numbers, if there is one. -/
def of? (year : Int) (month day : Nat) : Option Date :=
  if h : Calendar.isDay year month day = true then some ⟨year, month, day, h⟩ else none

/-- Days from 1 March of the year 0 to 1 January 2000. -/
def epochShift : Int := 730425

/-- The number of days from 1 January 2000. Years are counted from March, so that a leap day is the
last day of its year. -/
def dayNumber (d : Date) : Int :=
  let year := if d.month ≤ 2 then d.year - 1 else d.year
  let month : Int := if d.month ≤ 2 then d.month + 9 else d.month - 3
  let era := year / 400
  let yearOfEra := year % 400
  let dayOfYear := (153 * month + 2) / 5 + d.day - 1
  era * 146097 + yearOfEra * 365 + yearOfEra / 4 - yearOfEra / 100 + dayOfYear - epochShift

/-- The day with the given number, if its year is supported. -/
def ofDayNumber? (n : Int) : Option Date :=
  let days := n + epochShift
  let era := days / 146097
  let dayOfEra := days % 146097
  let yearOfEra :=
    (dayOfEra - dayOfEra / 1460 + dayOfEra / 36524 - dayOfEra / 146096) / 365
  let dayOfYear := dayOfEra - (365 * yearOfEra + yearOfEra / 4 - yearOfEra / 100)
  let monthFromMarch := (5 * dayOfYear + 2) / 153
  let day := dayOfYear - (153 * monthFromMarch + 2) / 5 + 1
  let month := if monthFromMarch < 10 then monthFromMarch + 3 else monthFromMarch - 9
  let year := yearOfEra + era * 400
  of? (if month ≤ 2 then year + 1 else year) month.toNat day.toNat

/-- Four digits for the years 0 to 9999; a sign and at least four digits for the others. -/
def yearText (year : Int) : List Char :=
  if 0 ≤ year ∧ year ≤ 9999 then padded 4 year.toNat
  else (if year < 0 then '-' else '+') :: padded 4 year.natAbs

/-- Year, month and day with hyphens between them. -/
def text (d : Date) : List Char :=
  yearText d.year ++ '-' :: padded 2 d.month ++ '-' :: padded 2 d.day

end Date

end QueryKit
