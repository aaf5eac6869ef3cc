import FilterStore.Calendar.Stamp
import FilterStore.Engine.Operator
import FilterStore.Engine.PatternMeaning
import FilterStore.Sql.Fault
import FilterStore.Value.Storage

/-!
# The engine's functions

Functions of cells, of the current time, and of all cells of a group.  Unless its purpose is null
itself, a function of null is null.
-/

namespace FilterStore.Engine

open Calendar (Instant)
open Number (Decimal)
open Sql (Aggregate Collation Fault)

/-! ## Wildcards

A wildcard pattern is matched against a whole text: a per cent sign stands for any characters, an
underscore for exactly one, and every other character for itself, whatever the case of ASCII
letters.  Behind an escape character, if one is given, each character stands for itself.

There is a second kind of patterns, which does regard case: an asterisk stands for any characters, a
question mark for exactly one, and characters in square brackets for one of them.
-/

namespace Wildcard

/-- Whether two characters are one up to the case of ASCII letters. -/
def sameLetter (a b : Char) : Bool := a.toLower == b.toLower

/-- Whether a text starts with a character and goes on as asked. -/
def headMatches (isHead : Char → Bool) (rest : List Char → Bool) : List Char → Bool
  | c :: cs => isHead c && rest cs
  | [] => false

/-- Whether a text, or what is left of it behind some of its characters, is as asked. -/
def anySuffix (asked : List Char → Bool) : List Char → Bool
  | [] => asked []
  | c :: cs => asked (c :: cs) || anySuffix asked cs

/-- Whether a pattern matches a text. -/
def accepts (escape : Option Char) : List Char → List Char → Bool
  | [], text => text.isEmpty
  | p :: ps, text =>
    if escape = some p then
      match ps with
      | [] => false
      | q :: qs => headMatches (sameLetter q) (accepts escape qs) text
    else if p = '%' then anySuffix (accepts escape ps) text
    else if p = '_' then headMatches (fun _ => true) (accepts escape ps) text
    else headMatches (sameLetter p) (accepts escape ps) text

/-- A set of characters behind its opening bracket, up to its closing one: single characters and
ranges.  `least` is what a range could start with. -/
def bracketSet (least : Option Char) : List Char → Option ((Char → Bool) × List Char)
  | [] => none
  | ']' :: rest => some (fun _ => false, rest)
  | '-' :: d :: rest =>
    match least, d with
    | some c, d =>
      if d = ']' then some (fun x => x == '-', rest)
      else (bracketSet none rest).map fun (set, rest) => (fun x => (c ≤ x && x ≤ d) || set x, rest)
    | none, d =>
      (bracketSet (some '-') (d :: rest)).map fun (set, rest) => (fun x => x == '-' || set x, rest)
  | c :: rest => (bracketSet (some c) rest).map fun (set, rest) => (fun x => x == c || set x, rest)

/-- A set of characters behind its opening bracket, with what may stand first in it: a circumflex
for the opposite, and a closing bracket that is one of the characters. -/
def bracketed (cs : List Char) : Option ((Char → Bool) × List Char) :=
  let (opposite, cs) := match cs with
    | '^' :: rest => (true, rest)
    | _ => (false, cs)
  let (closing, cs) := match cs with
    | ']' :: rest => (true, rest)
    | _ => (false, cs)
  (bracketSet none cs).map fun (set, rest) =>
    (fun x => ((closing && x == ']') || set x) != opposite, rest)

/-- Whether a pattern of the second kind matches a text, given as many steps as it has
characters. -/
def globsWithin : Nat → List Char → List Char → Bool
  | _, [], text => text.isEmpty
  | 0, _, _ => false
  | fuel + 1, p :: ps, text =>
    if p = '*' then anySuffix (globsWithin fuel ps) text
    else if p = '?' then headMatches (fun _ => true) (globsWithin fuel ps) text
    else if p = '[' then
      match bracketed ps with
      | some (set, rest) => headMatches set (globsWithin fuel rest) text
      | none => false
    else headMatches (· == p) (globsWithin fuel ps) text

/-- Whether a pattern of the second kind matches a text. -/
def globs (pattern text : List Char) : Bool := globsWithin pattern.length pattern text

/-- Whether a pattern without an escape character matches a text. -/
def accepting (pattern text : String) : Bool := accepts none pattern.toList text.toList

end Wildcard

/-! ## Matching -/

/-- The characters of a text up to a null character. -/
def untilNull (s : String) : List Char := s.toList.takeWhile (· != Char.ofNat 0)

/-- Matches a text against a wildcard pattern.  Both end at a null character. -/
def matchesWildcard (escape : Option Char) (text pattern : Cell) : Cell :=
  match textOf? text, textOf? pattern with
  | some s, some p => Value.flag (Wildcard.accepts escape (untilNull p) (untilNull s))
  | _, _ => .null

/-- Matches a text against a wildcard pattern with an escape character. -/
def matchesEscaped (text pattern escape : Cell) : Except Fault Cell :=
  match (textOf? escape).map untilNull with
  | none => .ok .null
  | some [c] => .ok (matchesWildcard (some c) text pattern)
  | some _ => .error .escapeSize

/-- Matches a text against a pattern of wildcards and sets. -/
def matchesGlob (text pattern : Cell) : Cell :=
  match textOf? text, textOf? pattern with
  | some s, some p => Value.flag (Wildcard.globs (untilNull p) (untilNull s))
  | _, _ => .null

/-- The text of a double with all its digits before and behind the point, and none behind it if it
has no fraction. -/
def plainText (x : Float) : String :=
  if x.isFinite then
    let d := Number.shortest x
    let ds := d.positional
    let body := if 0 ≤ d.exponent then ds.take (ds.length - 2) else ds
    String.ofList (if (Number.Binary.ofFloat x).negative then '-' :: body else body)
  else if x.isNaN then "NaN"
  else if x < 0.0 then "-inf"
  else "inf"

/-- The text a regular pattern is looked for in. -/
def searchedText? : Cell → Option String
  | .real x => some (plainText x)
  | c => textOf? c

/-- Looks for a regular pattern in a text. -/
def matchesPattern (text pattern : Cell) : Except Fault Cell :=
  match pattern with
  | .null => .ok .null
  | .text p =>
    match Pattern.parse p with
    | .error refusal => .error (.pattern (refusal.message p))
    | .ok q =>
      match searchedText? text with
      | some s => .ok (Value.flag (q.found s))
      | none => .ok .null
  | _ => .error .patternType

/-! ## Time -/

/-- A clock and a date written as a format asks. -/
def formatTime (i : Instant) : List Char → List Char
  | '%' :: c :: rest =>
    let d := i.date
    let clock := i.clock
    let part :=
      match c with
      | 'Y' => Calendar.yearText d.year
      | 'm' => Calendar.padded 2 d.month
      | 'd' => Calendar.padded 2 d.day
      | 'H' => Calendar.padded 2 clock.hour
      | 'M' => Calendar.padded 2 clock.minute
      | 'S' => Calendar.padded 2 clock.second
      | 'f' =>
        Calendar.padded 2 clock.second ++ '.' :: Calendar.padded 3 (clock.nanos / 1000000)
      | 's' => (toString i.seconds).toList
      | _ => [c]
    part ++ formatTime i rest
  | c :: rest => c :: formatTime i rest
  | [] => []

/-- The instant that arguments name: the current one, or one that is written out. -/
def instantOf? (now : Instant) : List Cell → Option Instant
  | [] => some now
  | [.text s] => if Text.lower s == "now" then some now else Instant.parse? s
  | _ => none

/-- A text of an instant. -/
def timeText (now : Instant) (format : String) (arguments : List Cell) : Cell :=
  match instantOf? now arguments with
  | some i => .text (String.ofList (formatTime i format.toList))
  | none => .null

/-! ## Texts -/

/-- A part of a text.  Characters are counted from one, and from the end where the start is
negative.  A negative length counts backwards. -/
def part {α : Type} (cs : List α) (start : Int) (length : Option Int) : List α :=
  let n : Int := cs.length
  let first := if 0 < start then start - 1 else if start = 0 then -1 else n + start
  let first' := match length with
    | some l => if l < 0 then first + l else first
    | none => first
  let last := match length with
    | some l => if l < 0 then first else first + l
    | none => n
  let low := (max first' 0).toNat
  let high := (min (max last 0) n).toNat
  (cs.drop low).take (high - low)

/-- The part of a cell, of its bytes if it is a blob, and else of its text. -/
def partOf (c : Cell) (start : Int) (length : Option Int) : Cell :=
  match c with
  | .blob bytes => .blob (part bytes start length)
  | c =>
    let partOf := fun (s : String) => Cell.text (String.ofList (part s.toList start length))
    ((textOf? c).map partOf).getD .null

/-- A function of a text. -/
def onText (f : String → Cell) (c : Cell) : Cell := ((textOf? c).map f).getD .null

/-- A function of two texts. -/
def onTexts (f : String → String → Cell) (a b : Cell) : Cell :=
  match textOf? a, textOf? b with
  | some s, some t => f s t
  | _, _ => .null

/-- A text without certain characters at its start or its end. -/
def trimmed (atStart atEnd : Bool) (set s : String) : String :=
  let drop := fun (cs : List Char) => cs.dropWhile set.toList.contains
  let cs := if atStart then drop s.toList else s.toList
  String.ofList (if atEnd then (drop cs.reverse).reverse else cs)

/-- Trims a cell of the characters of another. -/
def trimOf (atStart atEnd : Bool) (c set : Cell) : Cell :=
  onTexts (fun s set => .text (trimmed atStart atEnd set s)) c set

/-- A text with every occurrence of a part replaced, from the left. -/
def replaced (old new : List Char) : Nat → List Char → List Char
  | 0, cs => cs
  | _, [] => []
  | fuel + 1, c :: cs =>
    if old.isPrefixOf (c :: cs) then new ++ replaced old new fuel ((c :: cs).drop old.length)
    else c :: replaced old new fuel cs

/-- Replaces parts of a text; nothing is replaced if the part is empty. -/
def replaceText (s old new : String) : String :=
  if old.isEmpty then s
  else String.ofList (replaced old.toList new.toList s.toList.length s.toList)

/-- Where a list occurs in another for the first time, counted from one; zero if it does not. -/
def placeIn {α : Type} [BEq α] (item : List α) (n : Nat) : List α → Nat
  | [] => if item.isEmpty then n else 0
  | c :: cs => if item.isPrefixOf (c :: cs) then n else placeIn item (n + 1) cs

/-- Where a cell occurs in another, blobs by bytes. -/
def placeOf (c item : Cell) : Cell :=
  match c, item with
  | .null, _ | _, .null => .null
  | .blob a, .blob b => .integer (Int64.ofNat (placeIn b 1 a))
  | c, item =>
    onTexts (fun s t => .integer (Int64.ofNat (placeIn t.toList 1 s.toList))) c item

/-- A byte in two hexadecimal digits. -/
def hexByte (b : UInt8) : List Char :=
  let digit := fun (n : Nat) => (Nat.digitChar n).toUpper
  [digit (b.toNat / 16), digit (b.toNat % 16)]

/-- Bytes in hexadecimal digits. -/
def hexText (bytes : List UInt8) : String := String.ofList (bytes.flatMap hexByte)

/-- The bytes of a cell; null has none. -/
def bytesOf : Cell → List UInt8
  | .blob bytes => bytes
  | c => ((textOf? c).map fun s => s.toUTF8.toList).getD []

/-- A cell as it is written in a statement. -/
def literalText : Cell → String
  | .null => "NULL"
  | .text s => "'" ++ replaceText (String.ofList (untilNull s)) "'" "''" ++ "'"
  | .blob bytes => "X'" ++ hexText bytes ++ "'"
  | c => (textOf? c).getD ""

/-- The character of a code; a code of none is the replacement character. -/
def charOf (c : Cell) : Char :=
  let n := (wholeOf c).toInt
  if 0 ≤ n ∧ n.toNat.isValidChar then Char.ofNat n.toNat else Char.ofNat 0xfffd

/-! ## Numbers -/

/-- A double rounded to a number of places behind the point. -/
def roundedTo (places : Nat) (x : Float) : Float :=
  let great := 4503599627370496.0
  if x < -great || great < x then x
  else if places = 0 then Float.ofInt (Number.truncate (if x < 0.0 then x - 0.5 else x + 0.5))
  else if x == 0.0 then x
  else
    let all := Number.pairedDigits 17 x.abs
    let before := (Number.digitCount all.digits : Int) + all.exponent
    let d := Number.pairedDigits (before + places).toNat x.abs
    let n : Number.Numeral :=
      { whole := Number.digitChars d.digits, fraction := [], power := d.exponent }
    let size := if before + places < 0 then 0.0 else n.toPaired
    if x < 0.0 then -size else size

/-- A rounded number. -/
def roundOf (c : Cell) (places : Int) : Cell :=
  match c with
  | .null => .null
  | c => .real (roundedTo (min (max places 0) 30).toNat (doubleOf (operand c)))

/-- The size of a number.  What is no number counts as a double. -/
def absolute : Cell → Except Fault Cell
  | .null => .ok .null
  | .integer n =>
    match Number.int64? n.toInt.natAbs with
    | some size => .ok (.integer size)
    | none => .error .integerOverflow
  | c => .ok (.real (doubleOf (operand c)).abs)

/-- The sign of a number; what is none has no sign. -/
def signOf (c : Cell) : Cell :=
  match numbered c with
  | .integer n => .integer (if n < 0 then -1 else if n = 0 then 0 else 1)
  | .real x => .integer (if x < 0.0 then -1 else if x == 0.0 then 0 else 1)
  | _ => .null

/-! ## Functions by name -/

/-- How many arguments a function takes, at least and at most; nothing if there is no such
function. -/
def arity? (function : String) : Option (Nat × Nat) :=
  match function with
  | "LOWER" | "UPPER" | "LENGTH" | "OCTET_LENGTH" | "ABS" | "TYPEOF" | "HEX" | "QUOTE"
  | "UNICODE" | "SIGN" | "LIKELY" | "UNLIKELY" | "ZEROBLOB" => some (1, 1)
  | "IFNULL" | "NULLIF" | "INSTR" | "GLOB" | "MATCH" | "REGEXP" | "LIKELIHOOD" => some (2, 2)
  | "COALESCE" | "IIF" | "IF" => some (2, 100)
  | "MIN" | "MAX" | "CONCAT" => some (1, 100)
  | "CONCAT_WS" => some (2, 100)
  | "CHAR" => some (0, 100)
  | "COUNT" => some (0, 1)
  | "SUM" | "TOTAL" | "AVG" => some (1, 1)
  | "SUBSTR" | "SUBSTRING" | "LIKE" => some (2, 3)
  | "REPLACE" => some (3, 3)
  | "TRIM" | "LTRIM" | "RTRIM" | "ROUND" => some (1, 2)
  | "STRFTIME" => some (1, 100)
  | "DATETIME" | "DATE" | "TIME" | "JULIANDAY" | "UNIXEPOCH" => some (0, 100)
  | "CURRENT_TIMESTAMP" | "CURRENT_DATE" | "CURRENT_TIME" => some (0, 0)
  | _ => none

/-- Whether a function may answer something else another time, whatever its arguments are. -/
def isChangeable (function : String) : Bool :=
  ["CURRENT_TIMESTAMP", "CURRENT_DATE", "CURRENT_TIME"].contains function

/-- The name of a cell's kind. -/
def typeName : Cell → String
  | .null => "null"
  | .integer _ => "integer"
  | .real _ => "real"
  | .text _ => "text"
  | .blob _ => "blob"

/-- The first of two cells in the order; of equal ones the second. -/
def lesser (collation : Collation) (a b : Cell) : Cell :=
  if orderBy collation a b == .lt then a else b

/-- The last of two cells in the order; of equal ones the first. -/
def greater (collation : Collation) (a b : Cell) : Cell :=
  if orderBy collation a b == .lt then b else a

/-- Folds cells of which none is null. -/
def foldCells (f : Cell → Cell → Cell) (c : Cell) (cs : List Cell) : Cell :=
  if (c :: cs).any (same .null) then .null else cs.foldl f c

/-- A function of cells, which compares by a collation if it compares at all. -/
def applyFunction (now : Instant) (collation : Collation) (function : String)
    (arguments : List Cell) : Except Fault Cell :=
  match function, arguments with
  | "LOWER", [c] => .ok (onText (fun s => .text (Text.lower s)) c)
  | "UPPER", [c] => .ok (onText (fun s => .text (Text.upper s)) c)
  | "LENGTH", [.blob bytes] => .ok (.integer (Int64.ofNat bytes.length))
  | "LENGTH", [c] => .ok (onText (fun s => .integer (Int64.ofNat (untilNull s).length)) c)
  | "OCTET_LENGTH", [.null] => .ok .null
  | "OCTET_LENGTH", [c] => .ok (.integer (Int64.ofNat (bytesOf c).length))
  | "ABS", [c] => absolute c
  | "SIGN", [c] => .ok (signOf c)
  | "ROUND", [c] => .ok (roundOf c 0)
  | "ROUND", [_, .null] => .ok .null
  | "ROUND", [c, places] => .ok (roundOf c (wholeOf places).toInt)
  | "TYPEOF", [c] => .ok (.text (typeName c))
  | "HEX", [c] => .ok (.text (hexText (bytesOf c)))
  | "QUOTE", [c] => .ok (.text (literalText c))
  | "CHAR", cs => .ok (.text (String.ofList (cs.map charOf)))
  | "UNICODE", [c] =>
    .ok (onText (fun s => ((untilNull s).head?.map fun d => Cell.integer
      (Int64.ofNat d.toNat)).getD .null) c)
  | "ZEROBLOB", [c] => .ok (.blob (List.replicate (wholeOf c).toNatClampNeg 0))
  | "LIKELY", [c] | "UNLIKELY", [c] | "LIKELIHOOD", [c, _] => .ok c
  | "NULLIF", [a, b] => .ok (if sameBy collation a b then .null else a)
  | "MIN", c :: cs => .ok (foldCells (lesser collation) c cs)
  | "MAX", c :: cs => .ok (foldCells (greater collation) c cs)
  | "CONCAT", cs => .ok (.text (String.join (cs.filterMap textOf?)))
  | "CONCAT_WS", .null :: _ => .ok .null
  | "CONCAT_WS", c :: cs =>
    .ok (.text (((textOf? c).getD "").intercalate (cs.filterMap textOf?)))
  | "SUBSTR", [c, start] | "SUBSTRING", [c, start] =>
    .ok (match start with | .null => .null | n => partOf c (wholeOf n).toInt none)
  | "SUBSTR", [c, start, length] | "SUBSTRING", [c, start, length] =>
    .ok (match start, length with
      | .null, _ | _, .null => .null
      | n, l => partOf c (wholeOf n).toInt (some (wholeOf l).toInt))
  | "INSTR", [c, item] => .ok (placeOf c item)
  | "REPLACE", [c, old, new] =>
    .ok (match textOf? c, textOf? old, textOf? new with
      | some s, some t, some u => .text (replaceText s t u)
      | _, _, _ => .null)
  | "TRIM", [c] => .ok (trimOf true true c (.text " "))
  | "TRIM", [c, set] => .ok (trimOf true true c set)
  | "LTRIM", [c] => .ok (trimOf true false c (.text " "))
  | "LTRIM", [c, set] => .ok (trimOf true false c set)
  | "RTRIM", [c] => .ok (trimOf false true c (.text " "))
  | "RTRIM", [c, set] => .ok (trimOf false true c set)
  | "LIKE", [pattern, text] => .ok (matchesWildcard none text pattern)
  | "LIKE", [pattern, text, escape] => matchesEscaped text pattern escape
  | "GLOB", [pattern, text] => .ok (matchesGlob text pattern)
  | "REGEXP", [pattern, text] => matchesPattern text pattern
  | "MATCH", _ => .error .matchMisused
  | "STRFTIME", .text format :: rest => .ok (timeText now format rest)
  | "DATETIME", cs => .ok (timeText now "%Y-%m-%d %H:%M:%S" cs)
  | "DATE", cs => .ok (timeText now "%Y-%m-%d" cs)
  | "TIME", cs => .ok (timeText now "%H:%M:%S" cs)
  | "JULIANDAY", cs =>
    .ok (((instantOf? now cs).map fun i => Cell.real (julianDay i)).getD .null)
  | "UNIXEPOCH", cs =>
    .ok (((instantOf? now cs).map fun i => Cell.integer (Int64.ofInt i.seconds)).getD .null)
  | "CURRENT_TIMESTAMP", _ => .ok (timeText now "%Y-%m-%d %H:%M:%S" [])
  | "CURRENT_DATE", _ => .ok (timeText now "%Y-%m-%d" [])
  | "CURRENT_TIME", _ => .ok (timeText now "%H:%M:%S" [])
  | _, _ => .ok .null

/-! ## Sums of cells

A sum is an integer as long as everything added to it is.  Then it becomes a double, and what every
addition rounds away is kept beside it, to be added in the end.  A sum of integers that is too great
for an integer is no sum.

A great integer is added in two parts, so that each of them is a double.
-/

/-- A sum. -/
inductive Summation
  | exact (sum : Int64)
  /-- A double, what was rounded away, and whether only integers were added. -/
  | rounded (sum lost : Float) (integers : Bool)

namespace Summation

/-- An integer in two parts that are doubles. -/
def parts (n : Int64) : Float × Float :=
  let small := n.toInt.tmod 16384
  if n.toInt.natAbs < 4503599627370496 then (Float.ofInt n.toInt, 0.0)
  else (Float.ofInt (n.toInt - small), Float.ofInt small)

/-- Adds a double. -/
def addDouble (sum lost x : Float) : Float × Float :=
  let t := sum + x
  if x.abs < sum.abs then (t, lost + ((sum - t) + x)) else (t, lost + ((x - t) + sum))

/-- Adds an integer to a double. -/
def addInteger (sum lost : Float) (n : Int64) : Float × Float :=
  let (great, small) := parts n
  let (sum, lost) := addDouble sum lost great
  if small == 0.0 then (sum, lost) else addDouble sum lost small

/-- Adds a cell. -/
def add (s : Summation) (c : Cell) : Summation :=
  match s, numbered c with
  | exact m, .integer n =>
    match Number.int64? (m.toInt + n.toInt) with
    | some sum => exact sum
    | none =>
      let (sum, lost) := parts m
      let (sum, lost) := addInteger sum lost n
      rounded sum lost true
  | rounded sum lost integers, .integer n =>
    let (sum, lost) := addInteger sum lost n
    rounded sum lost integers
  | exact m, _ =>
    let (sum, lost) := parts m
    let (sum, lost) := addDouble sum lost (doubleOf (operand c))
    rounded sum lost false
  | rounded sum lost _, _ =>
    let (sum, lost) := addDouble sum lost (doubleOf (operand c))
    rounded sum lost false

/-- The sum of cells. -/
def ofCells (cs : List Cell) : Summation := cs.foldl add (exact 0)

/-- A sum as a double. -/
def double : Summation → Float
  | exact n => Float.ofInt n.toInt
  | rounded sum lost _ => if lost.isFinite then sum + lost else sum

/-- A sum as a cell. -/
def cell (s : Summation) : Except Fault Cell :=
  match s with
  | exact n => .ok (.integer n)
  | rounded _ _ true => .error .integerOverflow
  | rounded _ _ false => .ok (realResult s.double)

end Summation

/-! ## Functions of a group -/

/-- The cells that are not null. -/
def present (cs : List Cell) : List Cell := cs.filter fun c => !same c .null

/-- Cells of which equal ones stand only once. -/
def distinctCells (collation : Collation) (cs : List Cell) : List Cell :=
  cs.foldl (fun seen c => if seen.any (sameBy collation c) then seen else seen ++ [c]) []

/-- A function of the cells of a group, which leaves nulls aside. -/
def applyAggregate (collation : Collation) (function : Aggregate) (cells : List Cell) :
    Except Fault Cell :=
  let cs := present cells
  match function, cs with
  | .count, _ => .ok (.integer (Int64.ofNat cs.length))
  | .total, _ => .ok (.real (Summation.ofCells cs).double)
  | _, [] => .ok .null
  | .min, c :: rest =>
    .ok (rest.foldl (fun a b => if orderBy collation a b == .gt then b else a) c)
  | .max, c :: rest => .ok (rest.foldl (greater collation) c)
  | .sum, _ => (Summation.ofCells cs).cell
  | .average, _ => .ok (realResult ((Summation.ofCells cs).double / Float.ofNat cs.length))

end FilterStore.Engine
