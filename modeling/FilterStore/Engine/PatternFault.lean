/-!
# Faults of patterns

A text that is no pattern is reported with the text itself, marks under the characters the fault is
about, and the reason.  A text of several lines gets numbered lines between two rules; a stretch
that runs over a line break is named below them instead of being marked.
-/

namespace FilterStore.Engine

/-- A place in the text of a pattern: its line and its column, both counted from one. -/
structure Mark where
  line : Nat
  column : Nat
  deriving DecidableEq, Repr

/-- A stretch of the text of a pattern. -/
structure Extent where
  start : Mark
  stop : Mark
  deriving DecidableEq, Repr

namespace PatternFault

/-- Why a text is no pattern. -/
inductive Cause
  | classEscape
  | badClassRange
  | classRangeEnd
  | unclosedClass
  | badDecimal
  | emptyHex
  | badHex
  | badHexDigit
  | escapeAtEnd
  | unknownEscape
  | danglingMinus
  | repeatedFlag
  | repeatedMinus
  | flagAtEnd
  | unknownFlag
  | repeatedName
  | emptyName
  | badNameCharacter
  | unclosedName
  | unclosedGroup
  | unopenedGroup
  | tooDeep
  | badCount
  | emptyCount
  | unclosedCount
  | nothingToRepeat
  | unclosedEdge
  | unknownEdge
  | unclosedEdgeOrCount
  | badProperty
  | reference
  | lookAround
  | unknownProperty
  | unknownPropertyValue
  | notInBytes
  | matchesBytes
  deriving DecidableEq, Repr

/-- How deep groups and brackets may be nested. -/
def maxDepth : Nat := 250

/-- The wording of a reason. -/
def Cause.text : Cause → String
  | classEscape => "invalid escape sequence found in character class"
  | badClassRange => "invalid character class range, the start must be <= the end"
  | classRangeEnd => "invalid range boundary, must be a literal"
  | unclosedClass => "unclosed character class"
  | badDecimal => "decimal literal invalid"
  | emptyHex => "hexadecimal literal empty"
  | badHex => "hexadecimal literal is not a Unicode scalar value"
  | badHexDigit => "invalid hexadecimal digit"
  | escapeAtEnd => "incomplete escape sequence, reached end of pattern prematurely"
  | unknownEscape => "unrecognized escape sequence"
  | danglingMinus => "dangling flag negation operator"
  | repeatedFlag => "duplicate flag"
  | repeatedMinus => "flag negation operator repeated"
  | flagAtEnd => "expected flag but got end of regex"
  | unknownFlag => "unrecognized flag"
  | repeatedName => "duplicate capture group name"
  | emptyName => "empty capture group name"
  | badNameCharacter => "invalid capture group character"
  | unclosedName => "unclosed capture group name"
  | unclosedGroup => "unclosed group"
  | unopenedGroup => "unopened group"
  | tooDeep =>
    "exceed the maximum number of nested parentheses/brackets (" ++ toString maxDepth ++ ")"
  | badCount => "invalid repetition count range, the start must be <= the end"
  | emptyCount => "repetition quantifier expects a valid decimal"
  | unclosedCount => "unclosed counted repetition"
  | nothingToRepeat => "repetition operator missing expression"
  | unclosedEdge =>
    "special word boundary assertion is either unclosed or contains an invalid character"
  | unknownEdge =>
    "unrecognized special word boundary assertion, valid choices are: start, end, start-half " ++
      "or end-half"
  | unclosedEdgeOrCount =>
    "found either the beginning of a special word boundary or a bounded repetition on a \\b " ++
      "with an opening brace, but no closing brace"
  | badProperty => "invalid Unicode character class"
  | reference => "backreferences are not supported"
  | lookAround => "look-around, including look-ahead and look-behind, is not supported"
  | unknownProperty => "Unicode property not found"
  | unknownPropertyValue => "Unicode property value not found"
  | notInBytes => "Unicode not allowed here"
  | matchesBytes => "pattern can match invalid UTF-8"

end PatternFault

/-- Why a text is no pattern, and the stretch the fault is about.  A fault may be about an earlier
stretch too. -/
structure PatternFault where
  cause : PatternFault.Cause
  extent : Extent
  earlier : Option Extent := none
  deriving DecidableEq, Repr

namespace PatternFault

/-- The stretches of a fault, the earlier one first. -/
def extents (f : PatternFault) : List Extent := f.earlier.toList ++ [f.extent]

/-- The lines of a text.  A carriage return before a line feed belongs to the line end. -/
def linesOf (s : String) : List String :=
  let parts := s.toList.splitOn '\n'
  let ended := parts.dropLast.map fun l => if l.getLast? == some '\r' then l.dropLast else l
  let last := parts.getLast?.getD []
  (if last.isEmpty then ended else ended ++ [last]).map String.ofList

/-- The marks under a line, from a column on. -/
def marks : Nat → List Extent → List Char
  | _, [] => []
  | column, e :: rest =>
    let count := max 1 (e.stop.column - e.start.column)
    List.replicate (e.start.column - column) ' ' ++ List.replicate count '^' ++
      marks (max column e.start.column + count) rest

/-- A number with spaces before it. -/
def padded (width n : Nat) : String :=
  let digits := (toString n).toList
  String.ofList (List.replicate (width - digits.length) ' ' ++ digits)

/-- The lines of a pattern with the marks under them.  Several lines are numbered. -/
def marked (f : PatternFault) (pattern : String) : String :=
  let lines := linesOf pattern
  let count := lines.length + (if pattern.toList.getLast? == some '\n' then 1 else 0)
  let width := if count ≤ 1 then 0 else (toString count).length
  let margin := if width = 0 then 4 else width + 2
  let shown := lines.mapIdx fun i line =>
    let number := if width = 0 then "    " else padded width (i + 1) ++ ": "
    let here := f.extents.filter fun e => e.start.line == i + 1 && e.stop.line == i + 1
    let below :=
      if here.isEmpty then ""
      else String.ofList (List.replicate margin ' ' ++ marks 1 here) ++ "\n"
    number ++ line ++ "\n" ++ below
  String.join shown

/-- The stretches of a fault that run over a line break. -/
def notes (f : PatternFault) : String :=
  let long := f.extents.filter fun e => e.start.line != e.stop.line
  let note (e : Extent) : String :=
    "on line " ++ toString e.start.line ++ " (column " ++ toString e.start.column ++
      ") through line " ++ toString e.stop.line ++ " (column " ++ toString (e.stop.column - 1) ++
      ")\n"
  String.join (long.map note)

/-- The wording of a fault of a pattern. -/
def message (f : PatternFault) (pattern : String) : String :=
  let rule := String.ofList (List.replicate 79 '~') ++ "\n"
  let shown :=
    if pattern.toList.contains '\n' then rule ++ f.marked pattern ++ rule ++ f.notes
    else f.marked pattern
  "regex parse error:\n" ++ shown ++ "error: " ++ f.cause.text

end PatternFault

end FilterStore.Engine
