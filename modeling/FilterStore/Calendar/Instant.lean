/-!
# Dates and instants

Days are counted from 1 January 1970 in the proleptic Gregorian calendar.  The count and the date
determine each other, and the conversion is easiest from a year that starts on 1 March: then the
leap day is the last day of its year, a leap year the last of its four, and a leap century the last
of its four, so a day is found by four divisions of which two are cut off at three.

An instant is a second of Unix time and a count of nanoseconds within it.  A leap second has no
number of its own: it is the second before it with a thousand million nanoseconds added, so it
exists only after the last second of a minute.  The instants reach from the first second of the year
-262143 to the last of the year 262142.
-/

namespace FilterStore.Calendar

/-! ## Days and dates -/

/-- A date of the proleptic Gregorian calendar; the year before year 1 is year 0. -/
structure Date where
  year : Int
  month : Nat
  day : Nat
  deriving Repr, DecidableEq

/-- The days from 1 March of year 0 to 1 January 1970. -/
def marchOffset : Int := 719468

/-- The days of 400 years. -/
def daysPerCycle : Int := 146097

/-- The date of a day. -/
def Date.ofDays (days : Int) : Date :=
  let shifted := days + marchOffset
  let cycle := shifted / daysPerCycle
  let inCycle := (shifted % daysPerCycle).toNat
  let century := min 3 (inCycle / 36524)
  let inCentury := inCycle - century * 36524
  let quad := inCentury / 1461
  let inQuad := inCentury - quad * 1461
  let single := min 3 (inQuad / 365)
  let inYear := inQuad - single * 365
  let month := (5 * inYear + 2) / 153
  let marchYear := cycle * 400 + (century * 100 + quad * 4 + single : Nat)
  { year := if month < 10 then marchYear else marchYear + 1
    month := if month < 10 then month + 3 else month - 9
    day := inYear - (153 * month + 2) / 5 + 1 }

/-- The day of a date. -/
def Date.toDays (d : Date) : Int :=
  let marchYear := if d.month ≤ 2 then d.year - 1 else d.year
  let cycle := marchYear / 400
  let inCycle := (marchYear % 400).toNat
  let month := (d.month + 9) % 12
  let inYear := (153 * month + 2) / 5 + d.day - 1
  let days := inCycle * 365 + inCycle / 4 - inCycle / 100 + inYear
  cycle * daysPerCycle + (days : Nat) - marchOffset

/-- Whether a year has a 29 February. -/
def isLeapYear (year : Int) : Bool :=
  year % 4 == 0 && (year % 100 != 0 || year % 400 == 0)

/-- How many days a month has. -/
def daysInMonth (year : Int) (month : Nat) : Nat :=
  if month = 2 then (if isLeapYear year then 29 else 28)
  else if month = 4 ∨ month = 6 ∨ month = 9 ∨ month = 11 then 30
  else 31

/-- Whether the month is one of twelve and the month has the day. -/
def Date.isValid (d : Date) : Bool :=
  1 ≤ d.month && d.month ≤ 12 && 1 ≤ d.day && d.day ≤ daysInMonth d.year d.month

/-! ## Instants -/

/-- The first second of the year -262143. -/
def firstSecond : Int := -8334601228800

/-- The last second of the year 262142. -/
def lastSecond : Int := 8210266876799

/-- The nanoseconds of a second. -/
def second : Nat := 1000000000

/-- A point in time, possibly inside a leap second. -/
structure Instant where
  seconds : Int
  nanos : Nat
  first_le : firstSecond ≤ seconds
  le_last : seconds ≤ lastSecond
  nanos_lt : nanos < 2 * second
  at_leap : second ≤ nanos → seconds % 60 = 59
  deriving DecidableEq

/-- The instant at a Unix second and a count of nanoseconds, if there is one. -/
def Instant.ofUnix? (seconds : Int) (nanos : Nat) : Option Instant :=
  if h : firstSecond ≤ seconds ∧ seconds ≤ lastSecond ∧ nanos < 2 * second ∧
      (second ≤ nanos → seconds % 60 = 59) then
    some ⟨seconds, nanos, h.1, h.2.1, h.2.2.1, h.2.2.2⟩
  else none

/-- The instant at a count of milliseconds from the start of 1970. -/
def Instant.ofMillis? (millis : Int) : Option Instant :=
  Instant.ofUnix? (millis / 1000) ((millis % 1000).toNat * 1000000)

/-- The milliseconds from the start of 1970, the rest dropped.  Inside a leap second the count runs
on beyond the second it is attached to. -/
def Instant.millis (i : Instant) : Int := i.seconds * 1000 + (i.nanos / 1000000 : Nat)

/-- The date an instant falls on. -/
def Instant.date (i : Instant) : Date := Date.ofDays (i.seconds / 86400)

/-- The seconds since midnight, a leap second not counted. -/
def Instant.secondOfDay (i : Instant) : Nat := (i.seconds % 86400).toNat

/-- The time of day as a clock shows it: hour, minute, second up to 60, and the nanoseconds
within that second. -/
structure Clock where
  hour : Nat
  minute : Nat
  second : Nat
  nanos : Nat
  deriving Repr, DecidableEq

/-- The time of day of an instant. -/
def Instant.clock (i : Instant) : Clock :=
  let s := i.secondOfDay
  { hour := s / 3600
    minute := s / 60 % 60
    second := s % 60 + i.nanos / Calendar.second
    nanos := i.nanos % Calendar.second }

/-- The instant that a date and a clock show together, if both are possible.  The second 60 is a
leap second of any minute. -/
def Instant.ofClock? (d : Date) (c : Clock) (offset : Int) : Option Instant :=
  if d.isValid && c.hour < 24 && c.minute < 60 && c.second ≤ 60 then
    let base := d.toDays * 86400 + (c.hour * 3600 + c.minute * 60 + min c.second 59 : Nat)
    let nanos := if c.second = 60 then c.nanos + Calendar.second else c.nanos
    (Instant.ofUnix? base nanos).bind fun shown => Instant.ofUnix? (shown.seconds - offset) nanos
  else none

end FilterStore.Calendar
