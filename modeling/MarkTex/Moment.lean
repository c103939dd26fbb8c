import MarkTex.Text.Basic

/-!
# Points in time

Days, times of day, and both together, as configuration files name them. Two points in time with
distances from universal time are the same if they name the same instant.
-/

namespace MarkTex

/-- A time of day, with microseconds. -/
structure Clock where
  hour : Nat
  minute : Nat
  second : Nat
  micro : Nat
  deriving DecidableEq, Repr

/-- A point in time as a configuration file can name it: a day, a time of day, or both, the last
with or without a distance from universal time in seconds. -/
inductive Moment where
  | day (year month date : Nat)
  | time (clock : Clock)
  | stamp (year month date : Nat) (clock : Clock) (offset : Option Int)
  deriving DecidableEq, Repr

/-! ## Showing -/

/-- The hour, minute, second and, unless they are none, microseconds of a time. -/
def Clock.parts (c : Clock) : List Nat :=
  if c.micro != 0 then [c.hour, c.minute, c.second, c.micro]
  else if c.second != 0 then [c.hour, c.minute, c.second]
  else [c.hour, c.minute]

/-- A distance from universal time as messages show it. -/
def showOffset (seconds : Int) : String :=
  if seconds = 0 then "datetime.timezone.utc"
  else
    let days := seconds.fdiv 86400
    let rest := seconds.fmod 86400
    let parts := if days = 0 then s!"seconds={rest}" else s!"days={days}, seconds={rest}"
    s!"datetime.timezone(datetime.timedelta({parts}))"

/-- A point in time as messages show it. -/
def Moment.shown : Moment → String
  | day y m d => s!"datetime.date({y}, {m}, {d})"
  | time c =>
    let parts := ", ".intercalate (c.parts.map toString)
    s!"datetime.time({parts})"
  | stamp y m d c offset =>
    let parts := ", ".intercalate (([y, m, d] ++ c.parts).map toString)
    match offset with
    | none => s!"datetime.datetime({parts})"
    | some seconds => s!"datetime.datetime({parts}, tzinfo={showOffset seconds})"

/-! ## Instants -/

/-- The number of days before a day, counted from the first of March of a year that is a multiple of
400, where years start in March. -/
def dayNumber (year month date : Nat) : Int :=
  let y : Int := if month ≤ 2 then (year : Int) - 1 else year
  let m : Int := (month + 9) % 12
  365 * y + y.fdiv 4 - y.fdiv 100 + y.fdiv 400 + (153 * m + 2) / 5 + date

/-- The number of seconds of a day before a time. -/
def Clock.seconds (c : Clock) : Int :=
  3600 * c.hour + 60 * c.minute + c.second

/-- The seconds and microseconds of universal time at a point in time with a known distance. -/
def Moment.instant? : Moment → Option (Int × Nat)
  | stamp y m d c (some offset) =>
    some (86400 * dayNumber y m d + c.seconds - offset, c.micro)
  | _ => none

/-- Whether two points in time are the same one. -/
def Moment.same (a b : Moment) : Bool :=
  match a.instant?, b.instant? with
  | some i, some j => i == j
  | none, none => a == b
  | _, _ => false

end MarkTex
