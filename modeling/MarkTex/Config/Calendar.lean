import MarkTex.Value

/-!
# Days and times

A day or time that a configuration file names has to exist. What does not exist is reported by its
first part that is out of range.
-/

namespace MarkTex.Config

/-- The part of a day or time that is out of range. -/
inductive CalendarFault where
  | year (n : Nat)
  | month
  | day
  | hour
  | minute
  | second
  /-- The distance from universal time, in seconds, is a day or more. -/
  | offset (seconds : Int)
  deriving DecidableEq, Repr

/-- A distance in seconds as a number of days and seconds within a day. -/
def showDistance (seconds : Int) : String :=
  let days := seconds.fdiv 86400
  let rest := seconds.fmod 86400
  let part (name : String) (n : Int) : List String := if n = 0 then [] else [s!"{name}={n}"]
  ", ".intercalate (part "days" days ++ part "seconds" rest)

/-- What is wrong with a day or time. -/
def CalendarFault.message : CalendarFault → String
  | year n => s!"year {n} is out of range"
  | month => "month must be in 1..12"
  | day => "day is out of range for month"
  | hour => "hour must be in 0..23"
  | minute => "minute must be in 0..59"
  | second => "second must be in 0..59"
  | offset seconds =>
    "offset must be a timedelta strictly between -timedelta(hours=24) and timedelta(hours=24), " ++
      "not datetime.timedelta(" ++ showDistance seconds ++ ")."

/-- Whether a year has a 29th of February. -/
def isLeap (year : Nat) : Bool :=
  year % 4 == 0 && (year % 100 != 0 || year % 400 == 0)

/-- The number of days of a month. -/
def monthDays (year month : Nat) : Nat :=
  if month = 2 then (if isLeap year then 29 else 28)
  else if month = 4 || month = 6 || month = 9 || month = 11 then 30
  else 31

/-- Accepts a day that exists. -/
def checkDay (year month date : Nat) : Except CalendarFault Unit :=
  if year < 1 || year > 9999 then .error (.year year)
  else if month < 1 || month > 12 then .error .month
  else if date < 1 || date > monthDays year month then .error .day
  else .ok ()

/-- Accepts a time that exists. -/
def checkClock (clock : Clock) : Except CalendarFault Unit :=
  if clock.hour > 23 then .error .hour
  else if clock.minute > 59 then .error .minute
  else if clock.second > 59 then .error .second
  else .ok ()

/-- Accepts a distance from universal time of less than a day. -/
def checkOffset (offset : Option Int) : Except CalendarFault Unit :=
  match offset with
  | none => .ok ()
  | some seconds => if seconds.natAbs < 86400 then .ok () else .error (.offset seconds)

/-- The day, if it exists. -/
def day (year month date : Nat) : Except CalendarFault Moment := do
  checkDay year month date
  return .day year month date

/-- The point in time, if it exists. -/
def stamp (year month date : Nat) (clock : Clock) (offset : Option Int) :
    Except CalendarFault Moment := do
  checkOffset offset
  checkDay year month date
  checkClock clock
  return .stamp year month date clock offset

end MarkTex.Config
