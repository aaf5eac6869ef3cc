import FilterStore.Calendar.Stamp
import FilterStore.Error
import FilterStore.Number.Text
import FilterStore.Schema.Affinity
import FilterStore.Value.Basic

/-!
# How values are stored

The engine has no dates, so a date is stored in one of three notations, chosen by the affinity of
the column: seconds of Unix time, the engine's date text, or a Julian day number.  Outside a
temporal column a date is bound as its interchange text.

Reading a stored cell back tries to make a date of it and otherwise changes nothing.  One number is
no date: the integer zero in a column of seconds is the mark for "not set".  A column may hold its
numbers as texts; a text that spells a number is read as that number first.
-/

namespace FilterStore

open Calendar (Instant)
open Number (roundHalfAway clampInt64 int64OfText? floatOfText?)

/-- The Julian day on which 1970 starts. -/
def epochJulianDay : Float := 2440587.5

/-- The seconds of a day. -/
def secondsPerDay : Float := 86400.0

/-- The milliseconds of a day. -/
def millisPerDay : Float := 86400000.0

/-- An instant as a Julian day number. -/
def julianDay (d : Instant) : Float := Float.ofInt d.millis / millisPerDay + epochJulianDay

/-- The instant at a count of seconds, to the nearest millisecond. -/
def instantOfSeconds? (seconds : Float) : Option Instant :=
  if seconds.isFinite then
    let scaled := seconds * 1000.0
    if scaled.isFinite then Instant.ofMillis? (clampInt64 (roundHalfAway scaled)).toInt else none
  else none

/-- The instant at a Julian day number. -/
def instantOfJulianDay? (day : Float) : Option Instant :=
  instantOfSeconds? ((day - epochJulianDay) * secondsPerDay)

namespace Value

/-- The cell that is bound for a value outside a temporal column. -/
def encode : Value → Except Unencodable Cell
  | null => .ok .null
  | bool b => .ok (flag b)
  | integer n => .ok (.integer n)
  | real x => .ok (.real x)
  | text s => .ok (.text s)
  | blob bytes => .ok (.blob bytes)
  | date d => .ok (.text d.interchange)
  | list items => .error (.list items.length)
  | object members => .error (.object (members.map (·.1)))

/-- The cell for a date in a column of an affinity. -/
def encodeDate (d : Instant) : Affinity → Cell
  | .integer => .integer (Int64.ofInt d.seconds)
  | .text => .text d.engineText
  | .real | .numeric => .real (julianDay d)
  | .blob => .text d.interchange

/-- The cell for a value in a column of an affinity; it matters to dates alone. -/
def encodeFor (v : Value) (affinity : Affinity) : Except Unencodable Cell :=
  match v with
  | date d => .ok (encodeDate d affinity)
  | v => v.encode

mutual

/-- The cells of a value in a list: those of its items if it is itself a list. -/
def encodeFlat : Value → Except Unencodable (List Cell)
  | list items => encodeAll items
  | v => v.encode.map fun c => [c]

/-- The cells of the values of a list, nested lists opened in order. -/
def encodeAll : List Value → Except Unencodable (List Cell)
  | [] => .ok []
  | item :: rest => do
    let first ← encodeFlat item
    let others ← encodeAll rest
    .ok (first ++ others)

end

end Value

namespace Cell

/-- The number a text spells, blanks around it aside. -/
def ofNumericText? (s : String) : Option Cell :=
  let cs := Text.trimChars s.toList
  match int64OfText? cs with
  | some n => some (.integer n)
  | none =>
    match floatOfText? cs with
    | some x => if x.isFinite then some (.real x) else none
    | none => none

/-- A date if there is one, else the value that was stored. -/
def dateOr (d : Option Instant) (otherwise : Value) : Value :=
  match d with
  | some d => .date d
  | none => otherwise

/-- Reads a number stored in a temporal column. -/
def decodeNumber (affinity : Affinity) : Cell → Value
  | integer n =>
    match affinity with
    | .integer =>
      if n = 0 then .integer 0 else dateOr (Instant.ofUnix? n.toInt 0) (.integer n)
    | .real | .numeric => dateOr (instantOfJulianDay? (Float.ofInt n.toInt)) (.integer n)
    | .text | .blob => .integer n
  | real x =>
    match affinity with
    | .integer => dateOr (instantOfSeconds? x) (.real x)
    | .real | .numeric => dateOr (instantOfJulianDay? x) (.real x)
    | .text | .blob => .real x
  | other => other.toValue

/-- Reads a cell stored in a temporal column of an affinity. -/
def decode (affinity : Affinity) : Cell → Value
  | text s =>
    let asNumber :=
      match affinity with
      | .integer | .real | .numeric => ofNumericText? s
      | .text | .blob => none
    match asNumber with
    | some n => decodeNumber affinity n
    | none => dateOr (Instant.parse? s) (.text s)
  | other => decodeNumber affinity other

end Cell

end FilterStore
