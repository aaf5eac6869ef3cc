import FilterStore.Number.Decimal

/-!
# YAML scalars

Layout carries meaning in YAML, so a text is read from a *place*: the characters that are left, with
the line and the column of the first of them.  The text is made uniform before.  Every way to end a
line is one line feed then, except for the two separators of Unicode, which end a line too but stay
what they are; and a text with a character that YAML does not allow is no YAML, wherever the
character stands.

A scalar is written plain, in quotes of either kind, or as a block of lines.  A reader takes the
scalar off the text at a place and answers with its characters and the place behind it, or with
`none` if the text is not of the form.

Plain and quoted scalars may run over several lines.  The *gap* between two words is then folded:
blanks around a line break go, one break is a space, and of several breaks the first goes.  The
separators of Unicode are not folded.
-/

namespace FilterStore.Yaml

open Number (hexValue?)

/-! ## Places in a text -/

/-- A space or a tab. -/
def isSpace (c : Char) : Bool := c == ' ' || c == '\t'

/-- A character that ends a line of a uniform text. -/
def isBreak (c : Char) : Bool := c == '\n' || c == '\u2028' || c == '\u2029'

/-- A space, a tab or the end of a line. -/
def isGap (c : Char) : Bool := isSpace c || isBreak c

/-- Whether a text goes on with a gap or not at all. -/
def atGap : List Char → Bool
  | [] => true
  | c :: _ => isGap c

/-- Whether a character may stand in a YAML text. -/
def isAllowed (c : Char) : Bool :=
  let n := c.toNat
  n == 0x09 || n == 0x0a || n == 0x0d || (0x20 ≤ n && n ≤ 0x7e) || n == 0x85 ||
    (0xa0 ≤ n && n ≤ 0xfffd) || 0x10000 ≤ n

/-- A text with uniform line ends, if all its characters are allowed. -/
def uniform : List Char → Option (List Char)
  | [] => some []
  | '\r' :: '\n' :: rest => (uniform rest).map ('\n' :: ·)
  | c :: rest =>
    if !isAllowed c then none
    else (uniform rest).map ((if c == '\r' || c == '\u0085' then '\n' else c) :: ·)

/-- A place in a text: what is left from there on, and where it stands. -/
structure Place where
  rest : List Char
  line : Nat
  column : Nat

namespace Place

/-- The start of a text. -/
def start (cs : List Char) : Place := ⟨cs, 0, 0⟩

/-- The place behind the next character. -/
def next (p : Place) : Place :=
  match p.rest with
  | [] => p
  | c :: rest => if isBreak c then ⟨rest, p.line + 1, 0⟩ else ⟨rest, p.line, p.column + 1⟩

/-- The place behind a count of characters that lie on one line. -/
def skip (n : Nat) (p : Place) : Place := ⟨p.rest.drop n, p.line, p.column + n⟩

/-- The place behind the characters of a class that holds no line break. -/
def skipWhile (f : Char → Bool) (p : Place) : Place := p.skip (p.rest.takeWhile f).length

/-- The place at the end of the line. -/
def toLineEnd (p : Place) : Place := p.skipWhile fun c => !isBreak c

/-- Whether the mark of a document, three times one character, stands here. -/
def atMark (c : Char) (p : Place) : Bool :=
  p.column == 0 && [c, c, c].isPrefixOf p.rest && atGap (p.rest.drop 3)

/-- Whether a document is opened or closed here. -/
def atDocument (p : Place) : Bool := p.atMark '-' || p.atMark '.'

/-- A bound for the steps that can be taken from here. -/
def fuel (p : Place) : Nat := p.rest.length + 1

end Place

/-! ## Gaps -/

/-- A gap between two words: the blanks before its first line break, and its line breaks. -/
structure Gap where
  blanks : List Char
  breaks : List Char

namespace Gap

/-- What a gap stands for. -/
def text (g : Gap) : List Char :=
  match g.breaks with
  | [] => g.blanks
  | ['\n'] => [' ']
  | '\n' :: more => more
  | breaks => breaks

/-- Whether a line ends inside a gap. -/
def endsLine (g : Gap) : Bool := !g.breaks.isEmpty

end Gap

/-- Reads on in a gap.  Behind a line break, no tab may stand left of a column. -/
def readGapFrom (least : Nat) : Nat → Gap → Place → Option (Gap × Place)
  | 0, _, _ => none
  | fuel + 1, g, p =>
    match p.rest with
    | [] => some (g, p)
    | c :: _ =>
      if isBreak c then readGapFrom least fuel { g with breaks := g.breaks ++ [c] } p.next
      else if !isSpace c then some (g, p)
      else if !g.endsLine then
        readGapFrom least fuel { g with blanks := g.blanks ++ [c] } p.next
      else if c == '\t' && p.column < least then none
      else readGapFrom least fuel g p.next

/-- Reads a gap. -/
def readGap (least : Nat) (p : Place) : Option (Gap × Place) := readGapFrom least p.fuel ⟨[], []⟩ p

/-! ## Plain scalars -/

/-- Whether a character belongs to a flow collection. -/
def isFlowMark (c : Char) : Bool :=
  c == ',' || c == '[' || c == ']' || c == '\x7b' || c == '\x7d'

/-- Whether a character can only stand first in something else than a plain scalar. -/
def isIndicator (c : Char) : Bool :=
  isFlowMark c || c == '#' || c == '&' || c == '*' || c == '!' || c == '|' || c == '>' ||
    c == '\x27' || c == '"' || c == '%' || c == '@' || c == '\x60'

/-- How many characters the plain word at the start of a text has: it goes up to a gap, a colon
before a gap, or, inside a flow collection, a mark of one.  There a colon must not meet a mark. -/
def wordLength (flow : Bool) : List Char → Option Nat
  | [] => some 0
  | c :: rest =>
    if isGap c || (flow && isFlowMark c) then some 0
    else if c == ':' && flow && rest.head?.any (fun d => d == '?' || isFlowMark d) then none
    else if c == ':' && atGap rest then some 0
    else (wordLength flow rest).map (· + 1)

/-- Reads on in a plain scalar.  `text` is what has been read and `gap` what lies between it and the
place.  Outside flow collections the lines of the scalar reach at least to a column.  The answer
says also whether a line ended behind the last word. -/
def readPlainFrom (flow : Bool) (least : Nat) :
    Nat → List Char → Gap → Place → Option (List Char × Bool × Place)
  | 0, _, _, _ => none
  | fuel + 1, text, gap, p =>
    if p.atDocument || p.rest.head? == some '#' then some (text, gap.endsLine, p)
    else do
      let n ← wordLength flow p.rest
      if n = 0 then some (text, gap.endsLine, p)
      else
        let text := text ++ gap.text ++ p.rest.take n
        let p := p.skip n
        if p.rest.isEmpty || !atGap p.rest then some (text, false, p)
        else
          let (gap, p) ← readGap least p
          if !flow && p.column < least then some (text, gap.endsLine, p)
          else readPlainFrom flow least fuel text gap p

/-- Reads a plain scalar. -/
def readPlain (flow : Bool) (least : Nat) (p : Place) : Option (List Char × Bool × Place) :=
  readPlainFrom flow least p.fuel [] ⟨[], []⟩ p

/-! ## Quoted scalars -/

/-- Reads a count of digits of base sixteen as a character. -/
def readCode (count : Nat) (cs : List Char) : Option Char := do
  let ds := cs.take count
  if ds.length < count then none
  else
    let values ← ds.mapM hexValue?
    let n := values.foldl (fun n d => 16 * n + d) 0
    if n.isValidChar then some (Char.ofNat n) else none

/-- The character a one-letter escape stands for. -/
def escape? (c : Char) : Option Char :=
  [('0', '\x00'), ('a', '\x07'), ('b', '\x08'), ('t', '\t'), ('\t', '\t'), ('n', '\n'),
   ('v', '\x0b'), ('f', '\x0c'), ('r', '\r'), ('e', '\x1b'), (' ', ' '), ('"', '"'), ('/', '/'),
   ('\\', '\\'), ('N', '\u0085'), ('_', '\u00a0'), ('L', '\u2028'), ('P', '\u2029')].lookup c

/-- Reads an escape behind its backslash. -/
def readEscape (p : Place) : Option (Char × Place) :=
  match p.rest with
  | [] => none
  | c :: rest =>
    let count := if c = 'x' then 2 else if c = 'u' then 4 else if c = 'U' then 8 else 0
    if 0 < count then (readCode count rest).map fun d => (d, p.skip (count + 1))
    else (escape? c).map fun d => (d, p.skip 1)

/-- Reads on in a quoted scalar, whose text is collected in reverse.  A document must neither start
nor end inside. -/
def readQuotedFrom (quote : Char) : Nat → List Char → Place → Option (List Char × Place)
  | 0, _, _ => none
  | fuel + 1, acc, p =>
    if p.atDocument then none
    else
      match p.rest with
      | [] => none
      | c :: rest =>
        if isGap c then do
          let (gap, p) ← readGap 0 p
          readQuotedFrom quote fuel (gap.text.reverse ++ acc) p
        else if c == quote then
          if quote == '\x27' && rest.head? == some quote then
            readQuotedFrom quote fuel (quote :: acc) (p.skip 2)
          else some (acc.reverse, p.next)
        else if c == '\\' && quote == '"' then
          if rest.head?.any isBreak then do
            let (gap, p) ← readGap 0 p.next.next
            let kept := if gap.endsLine then gap.breaks else []
            readQuotedFrom quote fuel (kept.reverse ++ acc) p
          else do
            let (d, p) ← readEscape p.next
            readQuotedFrom quote fuel (d :: acc) p
        else readQuotedFrom quote fuel (c :: acc) p.next

/-- Reads a quoted scalar from its opening quote on. -/
def readQuoted (quote : Char) (p : Place) : Option (List Char × Place) :=
  readQuotedFrom quote p.fuel [] p.next

/-! ## Blocks of lines -/

/-- What to do with the line breaks a block ends with. -/
inductive Chomp
  | strip
  | clip
  | keep
  deriving DecidableEq

/-- What a character says about the breaks at the end of a block. -/
def chomp? (c : Char) : Option Chomp :=
  if c == '+' then some .keep else if c == '-' then some .strip else none

/-- The header of a block: what happens to its end, and how deep it is indented if it says so. -/
structure Header where
  chomp : Chomp
  depth : Option Nat

/-- Reads the header of a block behind its mark, up to the line break. -/
def readHeader (p : Place) : Option (Header × Place) :=
  let digit? (c : Char) : Option Nat := if c.isDigit then some (c.toNat - '0'.toNat) else none
  let first := p.rest.head?
  let second := (p.rest.drop 1).head?
  let (chomp, depth, n) :=
    match first.bind chomp?, first.bind digit? with
    | some h, _ =>
      match second.bind digit? with
      | some d => (h, some d, 2)
      | none => (h, none, 1)
    | none, some d =>
      match second.bind chomp? with
      | some h => (h, some d, 2)
      | none => (.clip, some d, 1)
    | none, none => (.clip, none, 0)
  let p := (p.skip n).skipWhile isSpace
  let p := if p.rest.head? == some '#' then p.toLineEnd else p
  if depth == some 0 then none
  else if p.rest.head?.all isBreak then some (⟨chomp, depth⟩, p.next)
  else none

/-- Reads indentation and empty lines.  The answer holds the deepest column and the line breaks.  A
tab must not stand in the indentation. -/
def readMargin (indent : Option Nat) :
    Nat → Nat → List Char → Place → Option (Nat × List Char × Place)
  | 0, _, _, _ => none
  | fuel + 1, deepest, breaks, p =>
    let spaces := (p.rest.takeWhile (· == ' ')).length
    let p :=
      match indent with
      | none => p.skip spaces
      | some column => p.skip (min spaces (column - p.column))
    let deepest := max deepest p.column
    match p.rest with
    | [] => some (deepest, breaks, p)
    | c :: _ =>
      if c == '\t' && indent.all (fun column => decide (p.column < column)) then none
      else if isBreak c then readMargin indent fuel deepest (breaks ++ [c]) p.next
      else some (deepest, breaks, p)

/-- Reads the lines of a block.  `final` is the break of the line before, and `breaks` are the empty
lines behind it; between two lines of a folded block that start with no blank, a line feed folds. -/
def readLines (folded : Bool) (indent : Nat) :
    Nat → List Char → List Char → List Char → Bool → Place →
      Option (List Char × List Char × List Char × Place)
  | 0, _, _, _, _, _ => none
  | fuel + 1, text, final, breaks, spaced, p =>
    if p.column != indent || p.rest.isEmpty then some (text, final, breaks, p)
    else do
      let blank := p.rest.head?.any isSpace
      let joint :=
        if folded && final == ['\n'] && !spaced && !blank then
          if breaks.isEmpty then [' '] else breaks
        else final ++ breaks
      let line := p.rest.takeWhile fun c => !isBreak c
      let p := p.skip line.length
      let final := p.rest.take 1
      let (_, breaks, p) ← readMargin (some indent) p.fuel 0 [] p.next
      readLines folded indent fuel (text ++ joint ++ line) final breaks blank p

/-- Reads a block of lines behind its mark.  Its lines reach at least to a column; how deep they are
indented is said by the header, counted from the collection around, or by the first line. -/
def readBlock (folded : Bool) (least : Nat) (p : Place) : Option (List Char × Place) := do
  let (header, p) ← readHeader p
  let given := header.depth.map (least - 1 + ·)
  let (deepest, breaks, p) ← readMargin given p.fuel 0 [] p
  let indent := given.getD (max deepest (max least 1))
  let (text, final, breaks, p) ← readLines folded indent p.fuel [] [] breaks false p
  let ending :=
    match header.chomp with
    | .strip => []
    | .clip => final
    | .keep => final ++ breaks
  some (text ++ ending, p)

end FilterStore.Yaml
