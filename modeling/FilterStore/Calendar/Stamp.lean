import FilterStore.Calendar.Instant
import FilterStore.Number.Decimal
import FilterStore.Text.Letter

/-!
# Written instants

Two layouts are written.  The *interchange* layout of RFC 3339 carries milliseconds and the zone
`Z`; the *engine* layout is the one the database's own date functions produce.  In both, a year
outside 0 to 9999 has a sign.

Reading is more lenient.  RFC 3339 is tried first, with fixed field widths, a zone offset and any
count of fraction digits.  Then come four layouts without a zone, given as lists of fields, which
allow blanks before a number, short numbers, and a signed year of any length; a slash between the
fields of a date stands for a hyphen.
-/

namespace FilterStore.Calendar

open Number (digitChars ofDigitChars spanDigits)
open Text (trimStart trimChars)

/-- A natural number with zeros in front, at least `width` digits. -/
def padded (width n : Nat) : List Char :=
  let ds := digitChars n
  List.replicate (width - ds.length) '0' ++ ds

/-- A year in four digits; outside 0 to 9999 with its sign. -/
def yearText (year : Int) : List Char :=
  if 0 ≤ year ∧ year ≤ 9999 then padded 4 year.toNat
  else (if year < 0 then '-' else '+') :: padded 4 year.natAbs

/-- Date and time down to the second, with a separator between them. -/
def Instant.stamp (i : Instant) (separator : Char) : List Char :=
  let d := i.date
  let c := i.clock
  yearText d.year ++ '-' :: padded 2 d.month ++ '-' :: padded 2 d.day ++
    separator :: padded 2 c.hour ++ ':' :: padded 2 c.minute ++ ':' :: padded 2 c.second

/-- The interchange layout, with milliseconds. -/
def Instant.interchange (i : Instant) : String :=
  String.ofList (i.stamp 'T' ++ '.' :: padded 3 (i.clock.nanos / 1000000) ++ ['Z'])

/-- The layout of the engine's date functions, down to the second. -/
def Instant.engineText (i : Instant) : String := String.ofList (i.stamp ' ')

/-- A field of a layout. -/
inductive Field
  | year
  | month
  | day
  | hour
  | minute
  | second
  /-- A fraction of a second, if a point stands here. -/
  | fraction
  | literal (c : Char)
  /-- Blanks, any number of them. -/
  | blanks
  deriving DecidableEq

/-- What has been read of an instant. -/
structure Reading where
  date : Date
  clock : Clock

/-- Nothing read yet; what a layout leaves out counts as zero. -/
def Reading.empty : Reading := ⟨⟨0, 0, 0⟩, ⟨0, 0, 0, 0⟩⟩

/-- Reads between `least` and `most` digits. -/
def readDigits (least most : Nat) (cs : List Char) : Option (Nat × List Char) :=
  let ds := (cs.takeWhile Char.isDigit).take most
  if ds.length < least then none else some (ofDigitChars ds, cs.drop ds.length)

/-- Reads the digits of a fraction as nanoseconds; digits after the ninth are dropped. -/
def readFraction (cs : List Char) : Option (Nat × List Char) :=
  let (ds, rest) := spanDigits cs
  if ds.isEmpty then none
  else
    let kept := ds.take 9
    some (ofDigitChars kept * Nat.pow 10 (9 - kept.length), rest)

/-- Reads a year: with a sign any count of digits, without one at most four. -/
def readYear : List Char → Option (Int × List Char)
  | '-' :: rest => (readDigits 1 rest.length rest).map fun r => (-(r.1 : Int), r.2)
  | '+' :: rest => (readDigits 1 rest.length rest).map fun r => ((r.1 : Int), r.2)
  | cs => (readDigits 1 4 cs).map fun r => ((r.1 : Int), r.2)

/-- Reads one field. -/
def Field.read (f : Field) (r : Reading) (cs : List Char) : Option (Reading × List Char) :=
  let number := readDigits 1 2 (trimStart cs)
  match f with
  | .year => (readYear (trimStart cs)).map fun (n, cs) => ({ r with date.year := n }, cs)
  | .month => number.map fun (n, cs) => ({ r with date.month := n }, cs)
  | .day => number.map fun (n, cs) => ({ r with date.day := n }, cs)
  | .hour => number.map fun (n, cs) => ({ r with clock.hour := n }, cs)
  | .minute => number.map fun (n, cs) => ({ r with clock.minute := n }, cs)
  | .second => number.map fun (n, cs) => ({ r with clock.second := n }, cs)
  | .fraction =>
    match cs with
    | '.' :: rest => (readFraction rest).map fun (n, cs) => ({ r with clock.nanos := n }, cs)
    | _ => some (r, cs)
  | .literal c =>
    match cs with
    | d :: rest => if c = d then some (r, rest) else none
    | [] => none
  | .blanks => some (r, trimStart cs)

/-- Reads a text that consists of the fields of a layout and nothing else. -/
def readLayout : List Field → Reading → List Char → Option Reading
  | [], r, [] => some r
  | [], _, _ :: _ => none
  | f :: fs, r, cs => (f.read r cs).bind fun (r, cs) => readLayout fs r cs

/-- A date with hyphens. -/
def dateLayout : List Field := [.year, .literal '-', .month, .literal '-', .day]

/-- A time down to the minute. -/
def minuteLayout : List Field := [.hour, .literal ':', .minute]

/-- A time down to a fraction of a second. -/
def secondLayout : List Field := minuteLayout ++ [.literal ':', .second, .fraction]

/-- The layouts without a zone, in the order they are tried. -/
def layouts : List (List Field) :=
  [dateLayout ++ .blanks :: secondLayout,
   dateLayout ++ .literal 'T' :: secondLayout,
   dateLayout ++ .blanks :: minuteLayout,
   dateLayout]

/-- Drops an expected character. -/
def expect (p : Char → Bool) : List Char → Option (List Char)
  | c :: rest => if p c then some rest else none
  | [] => none

/-- Reads a zone: `Z`, or a sign, two digits of hours, a colon and two digits of minutes.  The
answer is the offset from Universal Time in seconds. -/
def readZone (cs : List Char) : Option (Int × List Char) :=
  match cs with
  | [] => none
  | c :: rest =>
    if c == 'Z' || c == 'z' then some (0, rest)
    else if c == '+' || c == '-' || c == '\u2212' then do
      let (hours, rest) ← readDigits 2 2 rest
      let rest ← expect (· == ':') rest
      let (minutes, rest) ← readDigits 2 2 rest
      if 23 < hours || 59 < minutes then none
      else
        let offset : Int := (hours * 3600 + minutes * 60 : Nat)
        some (if c == '+' then offset else -offset, rest)
    else none

/-- Reads an instant in the layout of RFC 3339. -/
def readRfc3339 (cs : List Char) : Option Instant := do
  let (year, cs) ← readDigits 4 4 cs
  let cs ← expect (· == '-') cs
  let (month, cs) ← readDigits 2 2 cs
  let cs ← expect (· == '-') cs
  let (day, cs) ← readDigits 2 2 cs
  let cs ← expect (fun c => c == 'T' || c == 't' || c == ' ') cs
  let (hour, cs) ← readDigits 2 2 cs
  let cs ← expect (· == ':') cs
  let (minute, cs) ← readDigits 2 2 cs
  let cs ← expect (· == ':') cs
  let (second, cs) ← readDigits 2 2 cs
  let (nanos, cs) ←
    match cs with
    | '.' :: rest => readFraction rest
    | _ => some (0, cs)
  let (offset, cs) ← readZone cs
  if cs.isEmpty then Instant.ofClock? ⟨year, month, day⟩ ⟨hour, minute, second, nanos⟩ offset
  else none

/-- Reads an instant in one of the layouts without a zone. -/
def readNaive (cs : List Char) : Option Instant :=
  layouts.findSome? fun layout =>
    (readLayout layout .empty cs).bind fun r => Instant.ofClock? r.date r.clock 0

/-- Reads an instant in any layout the library writes or the engine's date functions produce.
Blanks around it do not count. -/
def Instant.parse? (s : String) : Option Instant :=
  let cs := trimChars s.toList
  (readRfc3339 cs).or (readNaive (cs.map fun c => if c = '/' then '-' else c))

end FilterStore.Calendar
