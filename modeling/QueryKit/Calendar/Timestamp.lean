import QueryKit.Calendar.Date

/-! Times of day, which may lie in a leap second, and timestamps made of a day and a time. -/

namespace QueryKit

namespace Calendar

/-- The numbers name a time of day. A nanosecond count of a thousand million or more is in the leap
second after second 59. -/
def isTime (hour minute second nano : Nat) : Bool :=
  hour < 24 && minute < 60 && second < 60 && nano < 2000000000 &&
    (nano < 1000000000 || second == 59)

end Calendar

/-- A time of day. -/
structure TimeOfDay where
  hour : Nat
  minute : Nat
  second : Nat
  nano : Nat
  valid : Calendar.isTime hour minute second nano = true
deriving DecidableEq

namespace TimeOfDay

/-- The time with the given numbers, if there is one. -/
def of? (hour minute second nano : Nat) : Option TimeOfDay :=
  if h : Calendar.isTime hour minute second nano = true then
    some ⟨hour, minute, second, nano, h⟩
  else none

/-- The start of the day. -/
def midnight : TimeOfDay := ⟨0, 0, 0, 0, rfl⟩

/-- The whole seconds since the start of the day. -/
def seconds (t : TimeOfDay) : Nat :=
  t.hour * 3600 + t.minute * 60 + t.second

/-- The nanoseconds since the start of the day, a leap second counted after the second before it. -/
def nanos (t : TimeOfDay) : Nat :=
  t.seconds * 1000000000 + t.nano

/-- The time with the given whole seconds of a day and nanoseconds. Past the end of the day it is
counted from the start again, and a count of nanoseconds that is impossible there is dropped. -/
def ofSeconds (seconds nano : Nat) : TimeOfDay :=
  let s := seconds % 86400
  let at? := of? (s / 3600) (s / 60 % 60) (s % 60)
  ((at? nano).or (at? 0)).getD midnight

/-- The fraction of a second in three, six or nine digits, or none for zero. -/
def fractionText (nano : Nat) : List Char :=
  if nano = 0 then []
  else if nano % 1000000 = 0 then '.' :: padded 3 (nano / 1000000)
  else if nano % 1000 = 0 then '.' :: padded 6 (nano / 1000)
  else '.' :: padded 9 nano

/-- Hour, minute and second with colons between them. A leap second is second 60. -/
def text (t : TimeOfDay) : List Char :=
  let leap := t.nano / 1000000000
  padded 2 t.hour ++ ':' :: padded 2 t.minute ++ ':' :: padded 2 (t.second + leap) ++
    fractionText (t.nano % 1000000000)

end TimeOfDay

/-- A day and a time of day. -/
structure Timestamp where
  date : Date
  time : TimeOfDay
deriving DecidableEq

/-- A moment, as the timestamp it has in universal time. -/
structure Moment where
  utc : Timestamp
deriving DecidableEq

namespace Timestamp

/-- The microseconds from the start of 2000, the rest cut off towards zero. -/
def micros (t : Timestamp) : Int :=
  (t.date.dayNumber * 86400000000000 + t.time.nanos).tdiv 1000

/-- The timestamp a number of microseconds from the start of 2000, if its year is supported. -/
def ofMicros? (n : Int) : Option Timestamp := do
  let date ← Date.ofDayNumber? (n / 86400000000)
  let rest := (n % 86400000000).toNat
  pure ⟨date, TimeOfDay.ofSeconds (rest / 1000000) (rest % 1000000 * 1000)⟩

/-- The timestamp a number of seconds earlier, if its year is supported; the nanoseconds stay. -/
def minusSeconds? (t : Timestamp) (n : Int) : Option Timestamp := do
  let seconds := (t.time.seconds : Int) - n
  let date ← Date.ofDayNumber? (t.date.dayNumber + seconds / 86400)
  pure ⟨date, TimeOfDay.ofSeconds (seconds % 86400).toNat t.time.nano⟩

/-- The day and the time with a character between them. -/
def text (mark : Char) (t : Timestamp) : List Char :=
  t.date.text ++ mark :: t.time.text

end Timestamp

end QueryKit
