import FilterStore.Json.Printer
import FilterStore.Number.Text
import FilterStore.Yaml.Scalar

/-!
# Written YAML

A string is written plain where that reads back as the same string.  It takes single quotes if it
would otherwise read as a number, a yes or no, or nothing, or if its characters would be taken for
marks; double quotes with escapes if it holds characters that cannot be shown; and a block of lines
if it holds line feeds.

A separator of Unicode ends a line, and the next line is indented.
-/

namespace FilterStore.Yaml

open Number (ofDigitChars int64OfText? floatOfText?)

/-- Whether a text stands for nothing. -/
def isNullWord (s : String) : Bool := s == "null" || s == "Null" || s == "NULL" || s == "~"

/-- The yes or no a text spells. -/
def bool? (s : String) : Option Bool :=
  if s == "true" || s == "True" || s == "TRUE" then some true
  else if s == "false" || s == "False" || s == "FALSE" then some false
  else none

/-- Whether a text is a zero with further digits behind it: such a text is no number. -/
def hasLeadingZero (s : String) : Bool :=
  let cs :=
    match s.toList with
    | '-' :: rest | '+' :: rest => rest
    | cs => cs
  1 < cs.length && cs.head? == some '0' && cs.all Char.isDigit

/-- The digits of a base as a number. -/
def ofDigits? (base : Nat) (cs : List Char) : Option Nat :=
  if cs.isEmpty then none
  else
    (cs.mapM fun c => (Number.hexValue? c).bind fun d => if d < base then some d else none).map
      (·.foldl (fun n d => base * n + d) 0)

/-- The natural number a plain scalar spells: in decimal, or after `0x`, `0o` or `0b` in another
base; a plus may stand in front. -/
def natural? (s : String) : Option Nat :=
  let cs :=
    match s.toList with
    | '+' :: rest => rest
    | cs => cs
  match cs with
  | '0' :: 'x' :: rest => ofDigits? 16 rest
  | '0' :: 'o' :: rest => ofDigits? 8 rest
  | '0' :: 'b' :: rest => ofDigits? 2 rest
  | cs => if hasLeadingZero s then none else ofDigits? 10 cs

/-- Whether a plain scalar would read as a number. -/
def isNumber (s : String) : Bool :=
  let negative :=
    match s.toList with
    | '-' :: '0' :: c :: rest =>
      (c == 'x' || c == 'o' || c == 'b') && (natural? (String.ofList ('0' :: c :: rest))).isSome
    | _ => false
  let unsigned :=
    match s.toList with
    | '+' :: rest => rest
    | cs => cs
  let word := String.ofList unsigned
  let isFloat :=
    match floatOfText? unsigned with
    | some x => x.isFinite
    | none => false
  (natural? s).isSome || negative || hasLeadingZero s ||
    [".inf", ".Inf", ".INF"].contains word ||
    ["-.inf", "-.Inf", "-.INF", ".nan", ".NaN", ".NAN"].contains s ||
    (isFloat && !(unsigned.head? == some '+') &&
      !(s.toList.head? == some '+' && unsigned.head? == some '-'))

/-- Whether a string would read as something other than a string. -/
def readsOtherwise (s : String) : Bool :=
  s.isEmpty || isNullWord s || (bool? s).isSome || isNumber s

/-- Whether a character is shown as itself. -/
def isShown (c : Char) : Bool :=
  let n := c.toNat
  n == 0x0a || (0x20 ≤ n && n ≤ 0x7e) || (0xa0 ≤ n && n ≤ 0xfffd && n != 0xfeff) || 0x10000 ≤ n

/-- Whether a character cannot stand first in a plain scalar. -/
def marksStart (cs : List Char) : Bool :=
  match cs with
  | [] => false
  | c :: rest =>
    if c == '?' || c == ':' || c == '-' then
      match rest with
      | [] => true
      | d :: _ => isSpace d || isBreak d
    else
      isIndicator c

/-- Whether a text holds, behind its first character, a colon before a gap or a comment mark behind
one. -/
def marksInside : List Char → Bool
  | a :: b :: rest =>
    (b == '#' && (isSpace a || isBreak a)) ||
      (b == ':' &&
        (match rest with
        | [] => true
        | d :: _ => isSpace d || isBreak d)) ||
      marksInside (b :: rest)
  | _ => false

/-- Whether a text starts with the mark of a document. -/
def marksDocument (cs : List Char) : Bool :=
  ['-', '-', '-'].isPrefixOf cs || ['.', '.', '.'].isPrefixOf cs

/-- Whether a space follows a line break somewhere. -/
def spaceAfterBreak : List Char → Bool
  | a :: b :: rest => (isBreak a && b == ' ') || spaceAfterBreak (b :: rest)
  | _ => false

/-- Whether a line break follows a space somewhere. -/
def breakAfterSpace : List Char → Bool
  | a :: b :: rest => (a == ' ' && isBreak b) || breakAfterSpace (b :: rest)
  | _ => false

/-- Whether a string has to be written with escapes. -/
def needsEscapes (cs : List Char) : Bool :=
  cs.any (fun c => !isShown c) || spaceAfterBreak cs || breakAfterSpace cs

/-- Whether a string can be written as a block of lines. -/
def fitsBlock (cs : List Char) : Bool :=
  cs.all isShown && cs.getLast? != some ' ' && !breakAfterSpace cs

/-- Whether a string can be written plain, apart from what it would read as. -/
def fitsPlain (cs : List Char) : Bool :=
  !(marksStart cs || marksInside cs || marksDocument cs || cs.any isBreak ||
    cs.head? == some ' ' || cs.getLast? == some ' ')

/-- A digit of base sixteen in upper case. -/
def upperHex (n : Nat) : Char := (hexDigit n).toUpper

/-- A code point in a count of digits of base sixteen. -/
def hexCode : Nat → Nat → List Char
  | 0, _ => []
  | width + 1, n => hexCode width (n / 16) ++ [upperHex (n % 16)]

/-- A character between double quotes. -/
def escapeText (c : Char) : List Char :=
  let letter :=
    [('\x00', '0'), ('\x07', 'a'), ('\x08', 'b'), ('\t', 't'), ('\n', 'n'), ('\x0b', 'v'),
     ('\x0c', 'f'), ('\r', 'r'), ('\x1b', 'e'), ('"', '"'), ('\\', '\\'), ('\u0085', 'N'),
     ('\u00a0', '_'), ('\u2028', 'L'), ('\u2029', 'P')].lookup c
  if isShown c && c != '"' && c != '\\' && !isBreak c then [c]
  else
    match letter with
    | some e => ['\\', e]
    | none =>
      let n := c.toNat
      if n ≤ 0xff then '\\' :: 'x' :: hexCode 2 n
      else if n ≤ 0xffff then '\\' :: 'u' :: hexCode 4 n
      else '\\' :: 'U' :: hexCode 8 n

/-- A string between double quotes. -/
def doubleQuoted (cs : List Char) : List Char := '"' :: (cs.flatMap escapeText ++ ['"'])

/-- Indents the characters that stand first on their lines.  `atStart` is whether the first of them
does. -/
def indented (indent : Nat) : Bool → List Char → List Char
  | _, [] => []
  | atStart, c :: rest =>
    if isBreak c then c :: indented indent true rest
    else (if atStart then List.replicate indent ' ' else []) ++ c :: indented indent false rest

/-- A string between single quotes. -/
def singleQuoted (indent : Nat) (cs : List Char) : List Char :=
  let doubled := cs.flatMap fun c => if c = '\x27' then ['\x27', '\x27'] else [c]
  '\x27' :: indented indent false (doubled ++ ['\x27'])

/-- How a block of lines ends: without a break, with one, or with the breaks it has. -/
def chompMark (cs : List Char) : List Char :=
  match cs.reverse with
  | c :: d :: _ => if !isBreak c then ['-'] else if isBreak d then ['+'] else []
  | [c] => if isBreak c then ['+'] else ['-']
  | [] => ['-']

/-- A string as a block of lines under an entry, indented by a count of spaces. -/
def block (indent : Nat) (cs : List Char) : List Char :=
  let hint := if cs.head? == some ' ' || cs.head?.any isBreak then ['2'] else []
  '|' :: (hint ++ chompMark cs ++ '\n' :: indented indent true cs)

/-- The end of the line behind a written string. -/
def lineEnd (cs : List Char) : List Char := if cs.getLast?.any isBreak then [] else ['\n']

/-- A string as the value of an entry, up to the end of the line.  Its lines are indented by a count
of spaces if it has several. -/
def stringText (indent : Nat) (s : String) : String :=
  let cs := s.toList
  let written :=
    if cs.contains '\n' then (if fitsBlock cs then block indent cs else doubleQuoted cs)
    else if needsEscapes cs then doubleQuoted cs
    else if readsOtherwise s || !fitsPlain cs then singleQuoted indent cs
    else cs
  String.ofList (written ++ lineEnd written)

end FilterStore.Yaml
