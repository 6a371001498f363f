import QueryKit.Calendar.Timestamp
import QueryKit.Text.Blank

/-! Reading of dates, times, timestamps and moments from text. Blanks may stand before every number
and separator, numbers may be short, and a fraction of a second is cut after nine digits. -/

namespace QueryKit

/-- Why a text is no date or time. -/
inductive CalendarError
  | outOfRange
  | impossible
  | invalid
  | tooShort
  | tooLong
deriving DecidableEq

def CalendarError.message : CalendarError → String
  | .outOfRange => "input is out of range"
  | .impossible => "no possible date and time matching input"
  | .invalid => "input contains invalid characters"
  | .tooShort => "premature end of input"
  | .tooLong => "trailing input"

namespace Calendar

open Text (trimStart isBlank)

/-- A step of reading: it takes characters off the front of the text, or fails. -/
abbrev Scan := StateT (List Char) (Except CalendarError)

def continueAt (cs : List Char) : Scan Unit :=
  fun _ => .ok ((), cs)

def skipBlanks : Scan Unit :=
  modify trimStart

def digitsValue (digits : List Char) : Nat :=
  digits.foldl (fun n c => 10 * n + (c.toNat - 48)) 0

/-- Reads one digit or more, at most as many as the limit. -/
def readDigits (limit : Nat) : Scan Nat := do
  let cs ← get
  let digits := (cs.take limit).takeWhile Char.isDigit
  if digits.isEmpty then throw (if cs.isEmpty then .tooShort else .invalid)
  modify (·.drop digits.length)
  pure (digitsValue digits)

/-- Reads a number of one or two digits between two bounds. -/
def readField (low high : Nat) : Scan Nat := do
  skipBlanks
  let n ← readDigits 2
  if low ≤ n ∧ n ≤ high then pure n else throw .outOfRange

/-- Reads a year: at most four digits, or any number of them after a sign. -/
def readYear : Scan Int := do
  skipBlanks
  let year : Int ←
    match ← get with
    | '-' :: rest => do
      continueAt rest
      let n ← readDigits rest.length
      pure (-(n : Int))
    | '+' :: rest => do
      continueAt rest
      let n ← readDigits rest.length
      pure (n : Int)
    | _ => do
      let n ← readDigits 4
      pure (n : Int)
  if -2147483648 ≤ year ∧ year ≤ 2147483647 then pure year else throw .outOfRange

def readMark (mark : Char) : Scan Unit := do
  match ← get with
  | [] => throw .tooShort
  | c :: rest => if c == mark then continueAt rest else throw .invalid

/-- Reads the digits of a fraction, of which nine count. -/
def readFraction : Scan Nat := do
  let before ← get
  let n ← readDigits 9
  let used := before.length - (← get).length
  modify (·.dropWhile Char.isDigit)
  pure (n * Nat.pow 10 (9 - used))

/-- Year, month and day as they are written. -/
structure DateFields where
  year : Int
  month : Nat
  day : Nat

/-- Hour, minute, second and nanosecond as they are written; the second may be 60. -/
structure TimeFields where
  hour : Nat
  minute : Nat
  second : Nat
  nano : Nat

/-- Reads year, month and day with hyphens between them. -/
def readDateFields : Scan DateFields := do
  let year ← readYear
  skipBlanks
  readMark '-'
  let month ← readField 1 12
  skipBlanks
  readMark '-'
  let day ← readField 1 31
  pure ⟨year, month, day⟩

/-- Reads hour and minute with a colon between them. -/
def readHourMinute : Scan (Nat × Nat) := do
  let hour ← readField 0 23
  skipBlanks
  readMark ':'
  let minute ← readField 0 59
  pure (hour, minute)

/-- Reads a colon, the second, its fraction and the blanks behind it. -/
def readSecond : Scan (Nat × Nat) := do
  skipBlanks
  readMark ':'
  let second ← readField 0 60
  let nano ←
    match ← get with
    | '.' :: rest => do
      continueAt rest
      readFraction
    | _ => pure 0
  skipBlanks
  pure (second, nano)

def readTimeFields : Scan TimeFields := do
  let (hour, minute) ← readHourMinute
  let (second, nano) ← readSecond
  pure ⟨hour, minute, second, nano⟩

/-- Reads hour and minute, and the second if it can be read. -/
def readShortTimeFields : Scan TimeFields := do
  let (hour, minute) ← readHourMinute
  let cs ← get
  match readSecond.run cs with
  | .ok ((second, nano), rest) => do
    continueAt rest
    pure ⟨hour, minute, second, nano⟩
  | .error _ => pure ⟨hour, minute, 0, 0⟩

/-- Only blanks may be left over. -/
def readEnd : Scan Unit := do
  skipBlanks
  if !(← get).isEmpty then throw .tooLong

/-- The day that the fields name. -/
def DateFields.resolve (f : DateFields) : Except CalendarError Date :=
  match Date.of? f.year f.month f.day with
  | some d => .ok d
  | none => .error .outOfRange

/-- The time that the fields name; second 60 is the leap second after second 59. -/
def TimeFields.resolve (f : TimeFields) : Except CalendarError TimeOfDay :=
  let (second, nano) := if f.second = 60 then (59, 1000000000 + f.nano) else (f.second, f.nano)
  match TimeOfDay.of? f.hour f.minute second nano with
  | some t => .ok t
  | none => .error .outOfRange

/-- Reads two digits. Fewer than two bytes are too short. -/
def readTwoDigits : Scan (Nat × Nat) := do
  match ← get with
  | a :: b :: rest =>
    if a.isDigit && b.isDigit then do
      continueAt rest
      pure (a.toNat - 48, b.toNat - 48)
    else throw .invalid
  | [a] => throw (if a.utf8Size < 2 then .tooShort else .invalid)
  | [] => throw .tooShort

/-- Reads the sign of an offset: whether it is negative. -/
def readSign : Scan Bool := do
  match ← get with
  | [] => throw .tooShort
  | c :: rest =>
    continueAt rest
    if c == '+' then pure false
    else if c == '-' || c == '−' then pure true
    else throw .invalid

/-- Reads an offset from universal time in seconds: hours and minutes after a sign, with any colons
and blanks between them. -/
def readOffset : Scan Int := do
  let negative ← readSign
  let (h1, h2) ← readTwoDigits
  modify (·.dropWhile fun c => c == ':' || isBlank c)
  let (m1, m2) ← readTwoDigits
  if m1 ≤ 5 then
    let seconds : Int := (10 * h1 + h2 : Nat) * 3600 + (10 * m1 + m2 : Nat) * 60
    pure (if negative then -seconds else seconds)
  else throw .outOfRange

/-- Reads a zone: universal time by its letters or by the letter Z, or an offset. -/
def readZone : Scan Int := do
  skipBlanks
  match ← get with
  | c :: rest =>
    if ((c :: rest).take 3).map Char.toUpper == ['U', 'T', 'C'] then do
      continueAt (rest.drop 2)
      pure 0
    else if c == 'Z' || c == 'z' then do
      continueAt rest
      pure 0
    else readOffset
  | [] => readOffset

end Calendar

open Calendar

/-- Reads a day: year, month and day with hyphens between them. -/
def Date.parse (s : String) : Except CalendarError Date := do
  let (fields, _) ← StateT.run (do let f ← readDateFields; readEnd; pure f) s.toList
  fields.resolve

/-- Reads a time of day: hour and minute, and a second that is taken only if it can be read. -/
def TimeOfDay.parse (s : String) : Except CalendarError TimeOfDay := do
  let (fields, _) ← StateT.run (do let f ← readShortTimeFields; readEnd; pure f) s.toList
  fields.resolve

/-- Reads the fields of a timestamp: a day, the letter T and a time of day with its second. -/
def Calendar.readTimestamp : Scan (DateFields × TimeFields) := do
  let date ← readDateFields
  skipBlanks
  readMark 'T'
  let time ← readTimeFields
  readEnd
  pure (date, time)

def Timestamp.parse (s : String) : Except CalendarError Timestamp := do
  let ((date, time), _) ← readTimestamp.run s.toList
  pure ⟨← date.resolve, ← time.resolve⟩

/-- Reads the fields of a moment: a day, the letter T of either case or a space, a time of day with
its second, and a zone. -/
def Calendar.readMoment : Scan (DateFields × TimeFields × Int) := do
  let date ← readDateFields
  match ← get with
  | [] => throw .tooShort
  | c :: rest => if c == 'T' || c == 't' || c == ' ' then continueAt rest else throw .invalid
  let time ← readTimeFields
  let offset ← readZone
  readEnd
  pure (date, time, offset)

/-- Reads a moment. Its offset is less than a day. -/
def Moment.parse (s : String) : Except CalendarError Moment := do
  let ((date, time, offset), _) ← readMoment.run s.toList
  let atZone : Timestamp := ⟨← date.resolve, ← time.resolve⟩
  if -86400 < offset ∧ offset < 86400 then
    match atZone.minusSeconds? offset with
    | some utc => pure ⟨utc⟩
    | none => throw .impossible
  else throw .outOfRange

end QueryKit
