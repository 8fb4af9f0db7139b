import WalletReplay.Calendar.Basic
import WalletReplay.Checkpoint.Basic

/-!
# Written moments

A moment is written as in RFC 3339: `2024-06-01T12:30:00.25+02:00`. Year, month, day, hour, minute
and second have a fixed number of digits. Any character of one byte may stand between the day and
the hour. A fraction of a second may follow the second; what is beyond nanoseconds is dropped. The
offset from universal time is `Z` or a sign with hours and minutes.

What a part has to look like is checked from left to right, and what values the parts may have after
that, except for the minute of the offset.

A minute may have a second 60 only where universal time inserts one: at the end of a month. It
counts as the last nanosecond before it.
-/

namespace WalletReplay

/-- A point in time, and the offset of the clock it was read from. -/
structure Moment where
  /-- The point in time. -/
  time : Timestamp
  /-- How many seconds the clock is ahead of universal time. -/
  offset : Int
  deriving DecidableEq, Repr

/-- The parts of a written moment. -/
inductive MomentPart where
  | year
  | month
  | day
  | separator
  | hour
  | minute
  | second
  | subsecond
  | offsetHour
  | offsetMinute
  deriving DecidableEq, Repr

/-- The name of a part. -/
def MomentPart.name : MomentPart → String
  | year => "year"
  | month => "month"
  | day => "day"
  | separator => "separator"
  | hour => "hour"
  | minute => "minute"
  | second => "second"
  | subsecond => "subsecond"
  | offsetHour => "offset hour"
  | offsetMinute => "offset minute"

/-- Why a text is no moment. -/
inductive MomentFault where
  /-- The part is not there. -/
  | missing (part : MomentPart)
  /-- A dash or a colon between two parts is not there. -/
  | mark
  /-- Something follows. -/
  | trailing
  /-- The part has a value that it cannot have. -/
  | range (part : MomentPart)
  deriving DecidableEq, Repr

/-- The wording of a fault. -/
def MomentFault.message : MomentFault → String
  | missing part => "the '" ++ part.name ++ "' component could not be parsed"
  | mark => "a character literal was not valid"
  | trailing => "unexpected trailing characters; the end of input was expected"
  | range part => part.name ++ " was not in range"

namespace Moment

/-- The value of a digit. -/
def digitValue (c : Char) : Nat :=
  c.toNat - '0'.toNat

/-- A number of two digits. -/
def twoDigits (part : MomentPart) : List Char → Except MomentFault (Nat × List Char)
  | a :: b :: cs =>
    if a.isDigit && b.isDigit then .ok (10 * digitValue a + digitValue b, cs)
    else .error (.missing part)
  | _ => .error (.missing part)

/-- A year of four digits. -/
def fourDigits : List Char → Except MomentFault (Nat × List Char)
  | a :: b :: cs =>
    if a.isDigit && b.isDigit then do
      let (low, rest) ← twoDigits .year cs
      return (1000 * digitValue a + 100 * digitValue b + low, rest)
    else .error (.missing .year)
  | _ => .error (.missing .year)

/-- A dash or a colon. -/
def mark (c : Char) : List Char → Except MomentFault (List Char)
  | d :: cs => if d = c then .ok cs else .error .mark
  | [] => .error .mark

/-- What stands between the day and the hour. The hour cannot begin in the middle of a character. -/
def separator : List Char → Except MomentFault (List Char)
  | c :: cs => if c.utf8Size = 1 then .ok cs else .error (.missing .hour)
  | [] => .error (.missing .separator)

/-- The nanoseconds that digits behind a point stand for. -/
def nanosecondsOf (ds : List Char) : Nat :=
  let kept := ds.take 9
  Nat.ofDigitChars 10 kept 0 * Nat.pow 10 (9 - kept.length)

/-- A fraction of a second, if there is one. -/
def fraction : List Char → Except MomentFault (Nat × List Char)
  | '.' :: cs =>
    match cs.takeWhile Char.isDigit with
    | [] => .error (.missing .subsecond)
    | ds => .ok (nanosecondsOf ds, cs.dropWhile Char.isDigit)
  | cs => .ok (0, cs)

/-- An offset behind its sign, in seconds. -/
def unsignedOffset (cs : List Char) : Except MomentFault (Nat × List Char) := do
  let (hour, rest) ← twoDigits .offsetHour cs
  if 23 < hour then throw (.missing .offsetHour)
  let rest ← mark ':' rest
  let (minute, rest) ← twoDigits .offsetMinute rest
  if 59 < minute then throw (.range .offsetMinute)
  return (3600 * hour + 60 * minute, rest)

/-- An offset, in seconds. -/
def offsetFrom : List Char → Except MomentFault (Int × List Char)
  | [] => .error (.missing .offsetHour)
  | c :: cs => do
    if c = 'Z' ∨ c = 'z' then return (0, cs)
    else if c = '+' then
      let (seconds, rest) ← unsignedOffset cs
      return (seconds, rest)
    else if c = '-' then
      let (seconds, rest) ← unsignedOffset cs
      return (-seconds, rest)
    else throw (.missing .offsetHour)

/-- The parts of a moment, as they are written. -/
structure Parts where
  /-- The year. -/
  year : Nat
  /-- The month, from 1. -/
  month : Nat
  /-- The day of the month, from 1. -/
  day : Nat
  /-- The hour. -/
  hour : Nat
  /-- The minute. -/
  minute : Nat
  /-- The second. -/
  second : Nat
  /-- The nanosecond. -/
  nanosecond : Nat
  /-- The offset in seconds. -/
  offset : Int

/-- Reads the parts of a moment. -/
def parts (cs : List Char) : Except MomentFault Parts := do
  let (year, cs) ← fourDigits cs
  let cs ← mark '-' cs
  let (month, cs) ← twoDigits .month cs
  if month = 0 then throw (.missing .month)
  let cs ← mark '-' cs
  let (day, cs) ← twoDigits .day cs
  let cs ← separator cs
  let (hour, cs) ← twoDigits .hour cs
  let cs ← mark ':' cs
  let (minute, cs) ← twoDigits .minute cs
  let cs ← mark ':' cs
  let (second, cs) ← twoDigits .second cs
  let (nanosecond, cs) ← fraction cs
  let (offset, cs) ← offsetFrom cs
  if cs ≠ [] then throw .trailing
  return { year, month, day, hour, minute, second, nanosecond, offset }

namespace Parts

/-- Seconds from the beginning of 1970 to the given second of the day, in universal time. -/
def unixSecond (p : Parts) (second : Nat) : Int :=
  let day := Calendar.dayNumber p.year p.month p.day
  day * 86400 + p.hour * 3600 + p.minute * 60 + second - p.offset

/-- Whether the minute is the last one of a month in universal time. An offset is less than a day,
so the month is the one that is written or the one before it. -/
def endsMonth (p : Parts) : Bool :=
  let afterMinute := p.unixSecond 60
  afterMinute = (Calendar.lastDayNumber p.year p.month + 1) * 86400
    || afterMinute = Calendar.dayNumber p.year p.month 1 * 86400

/-- The moment that the parts denote. -/
def toMoment (p : Parts) : Except MomentFault Moment := do
  if 12 < p.month then throw (.range .month)
  if !Calendar.isDate p.year p.month p.day then throw (.range .day)
  if 23 < p.hour then throw (.range .hour)
  if 59 < p.minute then throw (.range .minute)
  if p.second = 60 then
    if p.endsMonth then return ⟨.ofParts (p.unixSecond 59) 999999999, p.offset⟩
    else throw (.range .second)
  if 59 < p.second then throw (.range .second)
  return ⟨.ofParts (p.unixSecond p.second) p.nanosecond, p.offset⟩

end Parts

/-- Reads a moment. -/
def read (cs : List Char) : Except MomentFault Moment := do
  (← parts cs).toMoment

end Moment

end WalletReplay
