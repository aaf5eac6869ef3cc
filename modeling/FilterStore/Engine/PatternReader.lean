import FilterStore.Engine.PatternTree
import FilterStore.Number.Decimal
import FilterStore.Text.Letter
import FilterStore.Text.Property

/-!
# Reading patterns

The usual notation: characters for themselves, a point for any character but a line feed, classes in
square brackets, groups in round ones, bars between alternatives, and counts behind an element.  A
backslash takes the meaning from a sign and gives one to some letters.  Where spaces are ignored, so
are comments from a number sign to the end of the line.

A fault is found where the first character stands that cannot go on the pattern.
-/

namespace FilterStore.Engine

open PatternTree (Flag Assertion ShortClass Operator)

namespace PatternTree

/-- How far a pattern is read: the text left, where it starts, whether spaces are ignored, and the
names of groups with the stretches they stand on. -/
structure Progress where
  rest : List Char
  mark : Mark
  spaced : Bool
  names : List (String × Extent)

/-- A reader of part of a pattern. -/
abbrev Reader (α : Type) := StateT Progress (Except PatternFault) α

/-! ## Characters and places -/

/-- The place behind a character. -/
def markBehind (m : Mark) (c : Char) : Mark :=
  if c == '\n' then ⟨m.line + 1, 1⟩ else ⟨m.line, m.column + 1⟩

namespace Progress

/-- Goes on behind the next character. -/
def step (p : Progress) : Progress :=
  match p.rest with
  | [] => p
  | c :: rest => { p with rest := rest, mark := markBehind p.mark c }

/-- Goes on behind some characters. -/
def steps : Nat → Progress → Progress
  | 0, p => p
  | n + 1, p => steps n p.step

/-- Goes on behind spaces and comments. -/
def skipSpace : Nat → Progress → Progress
  | 0, p => p
  | fuel + 1, p =>
    match p.rest with
    | [] => p
    | c :: rest =>
      if Text.isBlank c then skipSpace fuel p.step
      else if c == '#' then
        skipSpace fuel (p.steps ((rest.takeWhile (· != '\n')).length + 2))
      else p

end Progress

namespace Reader

/-- The next character. -/
def peek : Reader (Option Char) := (·.rest.head?) <$> get

/-- Whether the text is at its end. -/
def atEnd : Reader Bool := (·.rest.isEmpty) <$> get

/-- Whether the next character is the given one. -/
def isNext (c : Char) : Reader Bool := return (← peek) == some c

/-- Where the text left starts. -/
def here : Reader Mark := (·.mark) <$> get

/-- The stretch of the next character. -/
def charExtent : Reader Extent := do
  let p ← get
  return ⟨p.mark, (p.rest.head?.map (markBehind p.mark)).getD p.mark⟩

/-- The stretch from a place on. -/
def extentFrom (start : Mark) : Reader Extent := return ⟨start, ← here⟩

/-- The empty stretch in front of the next character. -/
def noExtent : Reader Extent := do extentFrom (← here)

/-- Reports a fault. -/
def fail {α : Type} (cause : PatternFault.Cause) (extent : Extent) : Reader α :=
  throw { cause := cause, extent := extent }

/-- Goes on behind the next character. -/
def step : Reader Unit := modify Progress.step

/-- Goes on behind what is ignored. -/
def skipSpace : Reader Unit :=
  modify fun p => if p.spaced then p.skipSpace p.rest.length else p

/-- Goes on behind the next character and what is ignored. -/
def stepOn : Reader Unit := do
  step
  skipSpace

/-- Goes on behind a text if it is next, and says whether it was. -/
def accept (s : String) : Reader Bool := do
  let p ← get
  if s.toList.isPrefixOf p.rest then
    set (p.steps s.length)
    return true
  else return false

/-- The character behind the next one, where spaces are ignored the first one that is none.  Of a
comment, only the mark and the spaces behind it are passed over. -/
def peekBehind : Reader (Option Char) := do
  let p ← get
  let behind := p.rest.drop 1
  if p.spaced then
    match behind.dropWhile Text.isBlank with
    | '#' :: more => return (more.dropWhile Text.isBlank).head?.orElse fun _ => behind.head?
    | cs => return cs.head?.orElse fun _ => behind.head?
  else return behind.head?

end Reader

open Reader

/-! ## Escapes -/

/-- A sign that has a meaning of its own. -/
def isMeta (c : Char) : Bool := "\\.+*?()|[]\x7b\x7d^$#&-~".toList.contains c

/-- A character that stands for itself behind a backslash. -/
def standsForItself (c : Char) : Bool :=
  isMeta c || (c.toNat < 0x80 && !c.isAlphanum && c != '<' && c != '>')

/-- The control character a letter stands for behind a backslash. -/
def control? (c : Char) : Option Char :=
  [('a', '\x07'), ('f', '\x0c'), ('t', '\t'), ('n', '\n'), ('r', '\r'), ('v', '\x0b')].lookup c

/-- What is written as one element. -/
inductive Primitive
  | literal (l : Literal)
  | assertion (a : Assertion) (extent : Extent)
  | cls (c : BracketClass) (extent : Extent)

/-- The character of a code point. -/
def charOf? (digits : List Char) : Option Char :=
  let n := digits.foldl (fun n c => 16 * n + (Number.hexValue? c).getD 0) 0
  if n.isValidChar then some (Char.ofNat n) else none

/-- Reads a fixed number of digits of base sixteen. -/
def readHexDigits : Nat → Reader (List Char)
  | 0 => return []
  | n + 1 => do
    match ← peek with
    | none => fail .escapeAtEnd (← noExtent)
    | some c =>
      if (Number.hexValue? c).isNone then fail .badHexDigit (← charExtent)
      stepOn
      return c :: (← readHexDigits n)

/-- Reads digits of base sixteen up to a closing brace. -/
def readBracedDigits (opened : Mark) : Nat → Reader (List Char)
  | 0 => return []
  | fuel + 1 => do
    stepOn
    match ← peek with
    | none => fail .escapeAtEnd (← extentFrom opened)
    | some '\x7d' => return []
    | some c =>
      if (Number.hexValue? c).isNone then fail .badHexDigit (← charExtent)
      return c :: (← readBracedDigits opened fuel)

/-- Reads a code point behind its letter, which says how many digits it has without braces. -/
def readHex (start : Mark) (letter : Char) : Reader Literal := do
  stepOn
  if ← atEnd then fail .escapeAtEnd (← noExtent)
  if ← isNext '\x7b' then
    let opened ← here
    let first := (← charExtent).stop
    let digits ← readBracedDigits opened ((← get).rest.length + 1)
    let last ← here
    stepOn
    if digits.isEmpty then fail .emptyHex (← extentFrom opened)
    match charOf? digits with
    | some c => return ⟨c, false, ← extentFrom start⟩
    | none => fail .badHex ⟨first, last⟩
  else
    let first ← here
    let digits ← readHexDigits (if letter == 'x' then 2 else if letter == 'u' then 4 else 8)
    match charOf? digits with
    | some c => return ⟨c, letter == 'x', ← extentFrom start⟩
    | none => fail .badHex (← extentFrom first)

/-- Reads up to a closing brace. -/
def readBraced : Nat → Reader (List Char)
  | 0 => return []
  | fuel + 1 => do
    stepOn
    match ← peek with
    | none => fail .escapeAtEnd (← noExtent)
    | some '\x7d' => return []
    | some c => return c :: (← readBraced fuel)

/-- Cuts a text at the first place where a mark stands. -/
def cutAt (mark : List Char) : List Char → Option (List Char × List Char)
  | [] => none
  | c :: rest =>
    if mark.isPrefixOf (c :: rest) then some ([], (c :: rest).drop mark.length)
    else (cutAt mark rest).map fun (before, after) => (c :: before, after)

/-- Reads the name of a property behind its letter. -/
def readProperty (start : Mark) (negated : Bool) : Reader Primitive := do
  stepOn
  match ← peek with
  | none => fail .escapeAtEnd (← noExtent)
  | some '\x7b' =>
    let cs ← readBraced ((← get).rest.length + 1)
    step
    let extent ← extentFrom start
    let (name, value) :=
      match (cutAt ['!', '='] cs).or ((cutAt [':'] cs).or (cutAt ['='] cs)) with
      | some (name, value) => (name, some (String.ofList value))
      | none => (cs, none)
    return .cls (.property (String.ofList name) value negated extent) extent
  | some c =>
    if c == '\\' then fail .badProperty (← charExtent)
    stepOn
    let extent ← extentFrom start
    return .cls (.property c.toString none negated extent) extent

/-- A character of the names of word edges. -/
def isEdgeChar (c : Char) : Bool := c.isAlpha || c == '-'

/-- Reads a name of word edges. -/
def readEdgeName : Nat → Reader (List Char)
  | 0 => return []
  | fuel + 1 => do
    match ← peek with
    | some c =>
      if isEdgeChar c then
        stepOn
        return c :: (← readEdgeName fuel)
      else return []
    | none => return []

/-- Reads what a brace behind `\b` says, unless it opens a count. -/
def readEdge (start : Mark) : Reader (Option Assertion) := do
  let before ← get
  stepOn
  match ← peek with
  | none => fail .unclosedEdgeOrCount (← extentFrom start)
  | some c =>
    if !isEdgeChar c then
      set before
      return none
    else
      let first ← here
      let name ← readEdgeName (before.rest.length + 1)
      if !(← isNext '\x7d') then fail .unclosedEdge (← extentFrom before.mark)
      let last ← here
      step
      let known : List (String × Assertion) :=
        [("start", .wordStart), ("end", .wordEnd), ("start-half", .notInWordBefore),
         ("end-half", .notInWordAfter)]
      match known.lookup (String.ofList name) with
      | some a => return some a
      | none => fail .unknownEdge ⟨first, last⟩

/-- Reads an escape from its backslash on. -/
def readEscape : Reader Primitive := do
  let start ← here
  step
  match ← peek with
  | none => fail .escapeAtEnd (← extentFrom start)
  | some c =>
    if c.isDigit then fail .reference ⟨start, (← charExtent).stop⟩
    else if c == 'x' || c == 'u' || c == 'U' then return .literal (← readHex start c)
    else if c == 'p' || c == 'P' then readProperty start (c == 'P')
    else
      step
      let extent ← extentFrom start
      let short? : List (Char × ShortClass × Bool) :=
        [('d', .digit, false), ('D', .digit, true), ('s', .blank, false), ('S', .blank, true),
         ('w', .word, false), ('W', .word, true)]
      let assertion? : List (Char × Assertion) :=
        [('A', .textStart), ('z', .textEnd), ('B', .noEdge), ('<', .wordStart), ('>', .wordEnd)]
      match short?.lookup c, assertion?.lookup c, control? c with
      | some (short, negated), _, _ => return .cls (.short short negated extent) extent
      | _, some a, _ => return .assertion a extent
      | _, _, some d => return .literal ⟨d, false, extent⟩
      | _, _, _ =>
        if standsForItself c then return .literal ⟨c, false, extent⟩
        else if c == 'b' then
          let edge ← if ← isNext '\x7b' then readEdge start else pure none
          return .assertion (edge.getD .edge) (← extentFrom start)
        else fail .unknownEscape extent

/-! ## Classes -/

/-- The classes of ASCII characters with a name. -/
def asciiClassNames : List String :=
  ["alnum", "alpha", "ascii", "blank", "cntrl", "digit", "graph", "lower", "print", "punct",
   "space", "upper", "word", "xdigit"]

/-- Reads a class with a name, between brackets and colons, if one is next. -/
def readAsciiClass : Reader (Option BracketClass) := do
  let p ← get
  match p.rest with
  | '[' :: ':' :: rest =>
    let negated := rest.head? == some '^'
    let cs := if negated then rest.drop 1 else rest
    let name := cs.takeWhile (· != ':')
    let known := asciiClassNames.contains (String.ofList name)
    if known && [':', ']'].isPrefixOf (cs.drop name.length) then
      set (p.steps (name.length + (if negated then 5 else 4)))
      return some (.ascii (String.ofList name) negated (← extentFrom p.mark))
    else return none
  | _ => return none

/-- Reads one end of a range, or an element of its own. -/
def readClassPrimitive : Reader Primitive := do
  match ← peek with
  | some '\\' => readEscape
  | c =>
    let extent ← charExtent
    step
    return .literal ⟨c.getD ' ', false, extent⟩

/-- An element of a class. -/
def classOf : Primitive → Reader BracketClass
  | .literal l => return .literal l
  | .cls c _ => return c
  | .assertion _ e => fail .classEscape e

/-- An end of a range. -/
def rangeEnd : Primitive → Reader Literal
  | .literal l => return l
  | .cls _ e | .assertion _ e => fail .classRangeEnd e

/-- The stretch of a primitive. -/
def Primitive.extent : Primitive → Extent
  | .literal l => l.extent
  | .assertion _ e | .cls _ e => e

/-- Reads an element of a class or a range.  The class was opened at a stretch. -/
def readRange (opened : Extent) : Reader BracketClass := do
  let first ← readClassPrimitive
  skipSpace
  if ← atEnd then fail .unclosedClass opened
  let behind ← peekBehind
  if !(← isNext '-') || behind == some ']' || behind == some '-' then classOf first
  else
    stepOn
    if ← atEnd then fail .unclosedClass opened
    let last ← readClassPrimitive
    let low ← rangeEnd first
    let high ← rangeEnd last
    if high.char < low.char then fail .badClassRange ⟨first.extent.start, last.extent.stop⟩
    return .range low high

/-- Some elements as one class. -/
def unionOf (items : List BracketClass) : BracketClass :=
  match items with
  | [] => .empty
  | [c] => c
  | c :: _ =>
    match c.extent?, (items.getLast?.bind BracketClass.extent?) with
    | some e, some f => .union items ⟨e.start, f.stop⟩
    | _, _ => .union items ⟨⟨1, 1⟩, ⟨1, 1⟩⟩

/-- A class joined to the one before an operator. -/
def joinClass (before : Option (Operator × BracketClass)) (c : BracketClass) : BracketClass :=
  match before with
  | none => c
  | some (op, l) =>
    let start := (l.extent?.map (·.start)).getD ⟨1, 1⟩
    let stop := (c.extent?.map (·.stop)).getD start
    .joined op l c ⟨start, stop⟩

/-- Reads hyphens that stand for themselves at the front of a class. -/
def readHyphens (start : Mark) : Nat → Reader (List BracketClass)
  | 0 => return []
  | fuel + 1 => do
    if ← isNext '-' then
      let extent ← charExtent
      stepOn
      if ← atEnd then fail .unclosedClass ⟨start, start⟩
      return .literal ⟨'-', false, extent⟩ :: (← readHyphens start fuel)
    else return []

/-- Reads the front of a class: its bracket, whether it is negated, and the hyphens or the closing
bracket that stand for themselves there. -/
def readClassFront : Reader (Extent × Bool × List BracketClass) := do
  let start ← here
  stepOn
  if ← atEnd then fail .unclosedClass (← extentFrom start)
  let negated ← isNext '^'
  if negated then
    stepOn
    if ← atEnd then fail .unclosedClass (← extentFrom start)
  let items ← readHyphens start ((← get).rest.length + 1)
  if items.isEmpty && (← isNext ']') then
    let extent ← charExtent
    stepOn
    if ← atEnd then fail .unclosedClass (← extentFrom start)
    return (← extentFrom start, negated, [.literal ⟨']', false, extent⟩])
  else return (← extentFrom start, negated, items)

/-- The operator between two classes that is next. -/
def readOperator : Reader (Option Operator) := do
  if ← accept "&&" then return some .both
  else if ← accept "--" then return some .without
  else if ← accept "~~" then return some .unequal
  else return none

mutual

/-- Reads a class in brackets. -/
def readBracket (fuel : Nat) : Reader BracketClass :=
  match fuel with
  | 0 => fail .unclosedClass ⟨⟨1, 1⟩, ⟨1, 1⟩⟩
  | fuel + 1 => do
    let (opened, negated, items) ← readClassFront
    let inside ← readClassItems fuel opened none items
    return .bracketed negated inside (← extentFrom opened.start)

/-- Reads the rest of a class.  `before` is the class in front of the last operator, and `items` are
the elements behind it. -/
def readClassItems (fuel : Nat) (opened : Extent) (before : Option (Operator × BracketClass))
    (items : List BracketClass) : Reader BracketClass :=
  match fuel with
  | 0 => fail .unclosedClass opened
  | fuel + 1 => do
    skipSpace
    match ← peek with
    | none => fail .unclosedClass opened
    | some ']' =>
      step
      return joinClass before (unionOf items)
    | some '[' =>
      match ← readAsciiClass with
      | some c => readClassItems fuel opened before (items ++ [c])
      | none =>
        let c ← readBracket fuel
        readClassItems fuel opened before (items ++ [c])
    | some _ =>
      match ← readOperator with
      | some op => readClassItems fuel opened (some (op, joinClass before (unionOf items))) []
      | none =>
        let c ← readRange opened
        readClassItems fuel opened before (items ++ [c])

end

/-! ## Counts -/

/-- Reads digits. -/
def readDigits : Nat → Reader (List Char)
  | 0 => return []
  | fuel + 1 => do
    match ← peek with
    | some c =>
      if c.isDigit then
        stepOn
        return c :: (← readDigits fuel)
      else return []
    | none => return []

/-- Goes on behind blanks. -/
def skipBlanks : Reader Unit := modify fun p => p.steps (p.rest.takeWhile Text.isBlank).length

/-- Reads a number of 32 bits, with blanks around it.  A fault is not reported at once. -/
def readCountNumber : Reader (Except PatternFault Nat) := do
  skipBlanks
  let start ← here
  let digits ← readDigits ((← get).rest.length + 1)
  let extent ← extentFrom start
  skipBlanks
  skipSpace
  skipBlanks
  let n := Number.ofDigitChars digits
  if digits.isEmpty then return .error { cause := .emptyCount, extent := extent }
  else if n < 4294967296 then return .ok n
  else return .error { cause := .badDecimal, extent := extent }

/-- Reads what is in the braces of a count: the least number and the greatest, if there is one. -/
def readCountRange (start : Mark) : Reader (Nat × Option Nat) := do
  let least ← readCountNumber
  if ← atEnd then fail .unclosedCount (← extentFrom start)
  if ← isNext ',' then
    stepOn
    if ← atEnd then fail .unclosedCount (← extentFrom start)
    if ← isNext '\x7d' then return (← liftM least, none)
    else
      let least ← liftM least
      let most ← liftM (← readCountNumber)
      return (least, some most)
  else
    let n ← liftM least
    return (n, some n)

/-- What is counted: the last element, unless there is none or it only switches flags. -/
def countedItem (items : List (Mark × PatternTree)) :
    Reader (Mark × PatternTree × List (Mark × PatternTree)) := do
  let extent ← noExtent
  match items with
  | [] | (_, .flags _) :: _ => fail .nothingToRepeat extent
  | (mark, p) :: rest => return (mark, p, rest)

/-- Reads a count in braces behind the elements before it, the last one first. -/
def readCounted (items : List (Mark × PatternTree)) : Reader (List (Mark × PatternTree)) := do
  let (mark, p, rest) ← countedItem items
  let start ← here
  stepOn
  if ← atEnd then fail .unclosedCount (← extentFrom start)
  let (least, most) ← readCountRange start
  if !(← isNext '\x7d') then fail .unclosedCount (← extentFrom start)
  stepOn
  if ← isNext '?' then step
  if most.any (· < least) then fail .badCount (← extentFrom start)
  return (mark, .repetition p least most (← extentFrom mark)) :: rest

/-- Reads a count of one sign. -/
def readCount (least : Nat) (most : Option Nat) (items : List (Mark × PatternTree)) :
    Reader (List (Mark × PatternTree)) := do
  let (mark, p, rest) ← countedItem items
  step
  if ← isNext '?' then step
  return (mark, .repetition p least most (← extentFrom mark)) :: rest

/-! ## Groups -/

/-- The flag of a letter. -/
def flag? (c : Char) : Option Flag :=
  [('i', .ignoreCase), ('m', .multiLine), ('s', .anyChar), ('U', .swapGreed), ('u', .unicode),
   ('R', .carriage), ('x', .ignoreSpace)].lookup c

/-- A flag that is switched, and the stretch of its letter. -/
structure Switch where
  flag : Flag
  on : Bool
  extent : Extent

/-- Reads the flags of a group up to a colon or a closing bracket.  `minus` is the stretch of the
minus sign before, `bare` is whether nothing stands behind it. -/
def readFlags : Nat → Option Extent → Bool → List Switch → Reader Flags
  | 0, _, _, _ => return []
  | fuel + 1, minus, bare, switches => do
    match ← peek, minus with
    | none, _ => fail .flagAtEnd (← noExtent)
    | some ':', some e | some ')', some e =>
      if bare then fail .danglingMinus e else return switches.map fun s => (s.flag, s.on)
    | some ':', none | some ')', none => return switches.map fun s => (s.flag, s.on)
    | some '-', some e =>
      throw { cause := .repeatedMinus, extent := ← charExtent, earlier := some e }
    | some '-', none =>
      let extent ← charExtent
      step
      readFlags fuel (some extent) true switches
    | some c, _ =>
      let extent ← charExtent
      match flag? c with
      | none => fail .unknownFlag extent
      | some f =>
        match switches.find? fun s => s.flag == f with
        | some s => throw { cause := .repeatedFlag, extent := extent, earlier := some s.extent }
        | none =>
          step
          readFlags fuel minus false (switches ++ [⟨f, minus.isNone, extent⟩])

/-- Whether a character may stand in the name of a group. -/
def isNameChar (first : Bool) (c : Char) : Bool :=
  if first then c == '_' || Text.alphabetic.contains c
  else c == '_' || c == '.' || c == '[' || c == ']' || Text.isAlphanumeric c

/-- Reads the characters of the name of a group. -/
def readNameChars : Nat → Bool → Reader (List Char)
  | 0, _ => return []
  | fuel + 1, first => do
    match ← peek with
    | none => fail .unclosedName (← noExtent)
    | some '>' => return []
    | some c =>
      if !isNameChar first c then fail .badNameCharacter (← charExtent)
      step
      return c :: (← readNameChars fuel false)

/-- Reads the name of a group up to its closing bracket. -/
def readGroupName : Reader Unit := do
  let start ← here
  let cs ← readNameChars ((← get).rest.length + 1) true
  let extent ← extentFrom start
  step
  if cs.isEmpty then fail .emptyName ⟨start, start⟩
  let name := String.ofList cs
  let p ← get
  match p.names.lookup name with
  | some e => throw { cause := .repeatedName, extent := extent, earlier := some e }
  | none => set { p with names := (name, extent) :: p.names }

/-- What the front of a group says: that it only switches flags, or the flags for what is inside. -/
inductive GroupFront
  | switch (fs : Flags)
  | opened (fs : Flags)

/-- Reads the front of a group, which was opened at a stretch. -/
def readGroupFront (opened : Extent) : Reader GroupFront := do
  step
  skipSpace
  let looksAround ← accept "?=" <||> accept "?!" <||> accept "?<=" <||> accept "?<!"
  if looksAround then fail .lookAround (← extentFrom opened.start)
  let inner ← noExtent
  if ← accept "?P<" <||> accept "?<" then
    readGroupName
    return .opened []
  else if ← accept "?" then
    if ← atEnd then fail .unclosedGroup opened
    let fs ← readFlags ((← get).rest.length + 1) none false []
    let switches ← isNext ')'
    step
    if !switches then return .opened fs
    else if fs.isEmpty then fail .nothingToRepeat inner
    else return .switch fs
  else return .opened []

/-- What flags say about ignoring spaces. -/
def spacedBy (before : Bool) (fs : Flags) : Bool := (fs.lookup .ignoreSpace).getD before

/-- Says whether spaces are ignored. -/
def setSpaced (b : Bool) : Reader Unit := modify fun p => { p with spaced := b }

/-! ## Patterns -/

/-- Reads an element that is not counted, grouped or a class in brackets. -/
def readPrimitive : Reader PatternTree := do
  let extent ← charExtent
  match ← peek with
  | some '\\' =>
    match ← readEscape with
    | .literal l => return .literal l
    | .assertion a _ => return .assertion a
    | .cls c _ => return .cls c
  | some '.' =>
    step
    return .dot extent
  | some '^' =>
    step
    return .assertion .lineStart
  | some '$' =>
    step
    return .assertion .lineEnd
  | c =>
    step
    return .literal ⟨c.getD ' ', false, extent⟩

/-- Elements, the last one first, as one pattern that started at a place. -/
def concatenate (start : Mark) (items : List (Mark × PatternTree)) : Reader PatternTree := do
  match items with
  | [] => return .empty
  | [(_, p)] => return p
  | items => return .concatenation (items.reverse.map (·.2)) (← extentFrom start)

mutual

/-- Reads alternatives with bars between them.  `before` are those before the last bar. -/
def readAlternatives (fuel : Nat) (start : Mark) (before : List PatternTree) :
    Reader PatternTree :=
  match fuel with
  | 0 => return .empty
  | fuel + 1 => do
    let p ← readSequence fuel (← here) []
    if ← isNext '|' then
      step
      readAlternatives fuel start (before ++ [p])
    else if before.isEmpty then return p
    else return .alternation (before ++ [p]) (← extentFrom start)

/-- Reads elements up to a bar, a closing bracket or the end.  `items` are the elements before, the
last one first. -/
def readSequence (fuel : Nat) (start : Mark) (items : List (Mark × PatternTree)) :
    Reader PatternTree :=
  match fuel with
  | 0 => concatenate start items
  | fuel + 1 => do
    skipSpace
    let mark ← here
    match ← peek with
    | none | some '|' | some ')' => concatenate start items
    | some '(' =>
      let p ← readGroup fuel
      readSequence fuel start ((mark, p) :: items)
    | some '[' =>
      let c ← readBracket fuel
      readSequence fuel start ((mark, .cls c) :: items)
    | some '?' => readSequence fuel start (← readCount 0 (some 1) items)
    | some '*' => readSequence fuel start (← readCount 0 none items)
    | some '+' => readSequence fuel start (← readCount 1 none items)
    | some '\x7b' => readSequence fuel start (← readCounted items)
    | some _ =>
      let p ← readPrimitive
      readSequence fuel start ((mark, p) :: items)

/-- Reads a group, or flags that are switched up to the end of the group around them. -/
def readGroup (fuel : Nat) : Reader PatternTree :=
  match fuel with
  | 0 => return .empty
  | fuel + 1 => do
    let opened ← charExtent
    let before := (← get).spaced
    match ← readGroupFront opened with
    | .switch fs =>
      setSpaced (spacedBy before fs)
      return .flags fs
    | .opened fs =>
      setSpaced (spacedBy before fs)
      let p ← readAlternatives fuel (← here) []
      if !(← isNext ')') then fail .unclosedGroup opened
      setSpaced before
      step
      return .group fs p (← extentFrom opened.start)

end

/-- Reads a whole pattern. -/
def readWhole : Reader PatternTree := do
  let p ← readAlternatives (4 * (← get).rest.length + 8) (← here) []
  if !(← atEnd) then fail .unopenedGroup (← charExtent)
  match p.tooDeep? 0 with
  | some e => fail .tooDeep e
  | none => return p

/-- Reads a pattern. -/
def parse (s : String) : Except PatternFault PatternTree :=
  (readWhole.run { rest := s.toList, mark := ⟨1, 1⟩, spaced := false, names := [] }).map (·.1)

end PatternTree

end FilterStore.Engine
