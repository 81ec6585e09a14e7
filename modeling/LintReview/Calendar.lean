/-!
# Days and times

A day of the calendar, and a time of day that may name how far its zone is ahead of
universal time. Two times of which both name their zones are the same moment if they are
the same time in universal time; a time without a zone is never the same as one with it.
-/

namespace LintReview

/-- A day of the calendar. -/
structure Day where
  year : Nat
  month : Nat
  day : Nat
  deriving Repr, DecidableEq

/-- A time of day, with the minutes by which it is ahead of universal time, if known. -/
structure Clock where
  hour : Nat
  minute : Nat
  second : Nat
  microsecond : Nat
  offset : Option Int
  deriving Repr, DecidableEq

/-- A number in decimal digits, filled up with zeros to a width. -/
def padded (width : Nat) (value : Nat) : String :=
  let digits := toString value
  String.ofList (List.replicate (width - digits.length) '0') ++ digits

namespace Day

/-- The year has a day more. -/
def isLeapYear (year : Nat) : Bool := year % 4 = 0 && (year % 100 ≠ 0 || year % 400 = 0)

/-- The days of a month. -/
def daysOfMonth (year month : Nat) : Nat :=
  if month = 2 then if isLeapYear year then 29 else 28
  else if month ∈ [4, 6, 9, 11] then 30 else 31

/-- The days before a year, counted from the first day of the year 1. -/
def daysBeforeYear (year : Nat) : Nat :=
  let past := year - 1
  past * 365 + past / 4 - past / 100 + past / 400

/-- The days of a year before a month. -/
def daysBeforeMonth (year month : Nat) : Nat :=
  (List.range (month - 1)).foldl (fun total index => total + daysOfMonth year (index + 1)) 0

/-- The number of a day, in the order of time. -/
def number (day : Day) : Nat :=
  daysBeforeYear day.year + daysBeforeMonth day.year day.month + day.day

/-- The day as year, month and day with hyphens. -/
def written (day : Day) : String :=
  s!"{padded 4 day.year}-{padded 2 day.month}-{padded 2 day.day}"

end Day

namespace Clock

/-- How far a time is ahead, in hours and minutes. -/
def writtenOffset (clock : Clock) : String :=
  match clock.offset with
  | none => ""
  | some minutes =>
    let size := minutes.natAbs
    let sign := if minutes < 0 then "-" else "+"
    s!"{sign}{padded 2 (size / 60)}:{padded 2 (size % 60)}"

/-- The time of day with colons. -/
def written (clock : Clock) : String :=
  let fraction := if clock.microsecond = 0 then "" else "." ++ padded 6 clock.microsecond
  s!"{padded 2 clock.hour}:{padded 2 clock.minute}:{padded 2 clock.second}"
    ++ fraction ++ clock.writtenOffset

/-- The numbers of a time of day. Without a fraction the fraction is left out, and then
    the seconds if there are none. -/
def numbers (clock : Clock) : List Nat :=
  if clock.microsecond ≠ 0 then [clock.hour, clock.minute, clock.second, clock.microsecond]
  else if clock.second ≠ 0 then [clock.hour, clock.minute, clock.second]
  else [clock.hour, clock.minute]

/-- The minutes in universal time since the start of the first day. -/
def universalMinutes (day : Day) (clock : Clock) (offset : Int) : Int :=
  (day.number * 24 + clock.hour) * 60 + clock.minute - offset

end Clock

/-- Two times of two days are the same moment. -/
def sameMoment (first : Day) (clock : Clock) (second : Day) (other : Clock) : Bool :=
  match clock.offset, other.offset with
  | some ahead, some further =>
    clock.universalMinutes first ahead = other.universalMinutes second further
      && clock.second = other.second && clock.microsecond = other.microsecond
  | _, _ => first = second && clock = other

/-- A length of time in whole minutes, as days and seconds of which only the days may be
    negative. -/
def writtenLength (minutes : Int) : String :=
  let days := minutes.fdiv 1440
  let seconds := minutes.fmod 1440 * 60
  let parts := (if days = 0 then [] else [s!"days={days}"])
    ++ (if seconds = 0 then [] else [s!"seconds={seconds}"])
  let shown := if parts.isEmpty then "0" else String.intercalate ", " parts
  s!"datetime.timedelta({shown})"

/-- A zone by how far it is ahead of universal time. -/
def writtenZone (minutes : Int) : String :=
  if minutes = 0 then "datetime.timezone.utc" else s!"datetime.timezone({writtenLength minutes})"

/-- A moment with all its parts named. -/
def Day.inspectAt (day : Day) (clock : Clock) : String :=
  let numbers := ([day.year, day.month, day.day] ++ clock.numbers).map toString
  let zone := (clock.offset.map fun minutes => "tzinfo=" ++ writtenZone minutes).toList
  let shown := String.intercalate ", " (numbers ++ zone)
  s!"datetime.datetime({shown})"

end LintReview
