import FilterStore.Yaml.Property

/-!
# YAML documents and their tokens

A configuration is a YAML document: a tree of mappings and sequences with scalars at the leaves.
A scalar is a text, and what it means --- a number, a yes or no, nothing --- is decided by who asks.
Besides the text its style counts for that, and the tag it may carry.

A node may be named by an anchor, and a reference stands for the node of an anchor.

A YAML text is a list of tokens.  Block collections have no marks of their own, so their start and
end are read off the indentation: a node that stands further right than the collection around it
opens a new one, and one further left closes those it does not belong to.

A key is known as a key only by the colon behind it.  So the place of a node that might be one is
kept, and the tokens that say so are put in front of it once the colon comes.  Such a *simple* key
lies on one line and has at most 1024 characters.
-/

namespace FilterStore

/-! ## Documents -/

namespace Yaml

/-- How a scalar is written. -/
inductive Style
  | plain
  | quoted
  /-- A block of lines that are kept. -/
  | literal
  /-- A block of lines that are folded. -/
  | folded
  deriving DecidableEq

end Yaml

/-- A node of a YAML document. -/
inductive Yaml
  | scalar (text : String) (style : Yaml.Style) (tag : Option String)
  | mapping (entries : List (Yaml × Yaml))
  | sequence (items : List Yaml)
  /-- The node of an anchor, by the anchor's number. -/
  | reference (anchor : Nat)
  deriving Inhabited

namespace Yaml

/-- The scalar of a place where nothing is written. -/
def missing : Yaml := .scalar "" .plain none

/-- Whether nothing is written. -/
def isMissing : Yaml → Bool
  | scalar text style _ => text.isEmpty && style == .plain
  | _ => false

/-- A document: its tree, unless there is nothing at all, and the anchored nodes by number. -/
structure Document where
  root : Option Yaml
  anchored : List (Nat × Yaml)

/-- The node a reference stands for; any other node is itself. -/
def Document.resolve (d : Document) : Yaml → Option Yaml
  | reference anchor => d.anchored.lookup anchor
  | node => some node

/-! ## Tokens -/

/-- A token of a YAML text. -/
inductive Token
  | directive (d : Directive)
  | documentStart
  | documentEnd
  | blockSequence
  | blockMapping
  | blockEnd
  | flowSequence
  | flowSequenceEnd
  | flowMapping
  | flowMappingEnd
  | flowEntry
  | blockEntry
  | key
  | value
  | anchor (name : String)
  | reference (name : String)
  | tag (t : Tag)
  | scalar (text : String) (style : Style)
  deriving DecidableEq

/-- The start of a node that may turn out to be a key. -/
structure SimpleKey where
  /-- How many tokens stand before it. -/
  token : Nat
  line : Nat
  column : Nat
  /-- Whether the layout admits nothing but a key here. -/
  required : Bool

/-- How far a text is split: the place, the tokens before it, the columns of the open block
collections from the inside out, the possible keys of the open flow collections and of the
collection around them, and whether a simple key may start here. -/
structure Scan where
  place : Place
  tokens : Array Token
  indents : List Nat
  keys : List (Option SimpleKey)
  keyAllowed : Bool

namespace Scan

/-- The scan of a text before its first token. -/
def start (cs : List Char) : Scan := ⟨.start cs, #[], [], [none], true⟩

/-- Whether the place lies inside a flow collection. -/
def inFlow (s : Scan) : Bool := 1 < s.keys.length

/-- The least column of what belongs to the innermost block collection. -/
def least (s : Scan) : Nat :=
  match s.indents with
  | [] => 0
  | column :: _ => column + 1

/-- Appends a token. -/
def push (t : Token) (s : Scan) : Scan := { s with tokens := s.tokens.push t }

/-- Goes on at a place. -/
def goTo (p : Place) (s : Scan) : Scan := { s with place := p }

/-- Says whether a simple key may start here. -/
def allowKey (b : Bool) (s : Scan) : Scan := { s with keyAllowed := b }

/-- Puts tokens in front of those from a position on. -/
def insert (at_ : Nat) (ts : List Token) (s : Scan) : Scan :=
  { s with tokens := s.tokens.extract 0 at_ ++ ts.toArray ++ s.tokens.extract at_ s.tokens.size }

/-- Closes the block collections that stand right of a column, or all of them. -/
def close (column : Option Nat) (s : Scan) : Scan :=
  if s.inFlow then s
  else
    let stays (indent : Nat) : Bool := column.any fun c => decide (indent ≤ c)
    let closed := s.indents.takeWhile fun indent => !stays indent
    { s with
      tokens := s.tokens ++ (closed.map fun _ => Token.blockEnd).toArray
      indents := s.indents.drop closed.length }

/-- Opens a block collection at a column, unless there is one that far right.  Its token stands at a
position. -/
def openBlock (column : Nat) (at_ : Nat) (t : Token) (s : Scan) : Scan :=
  if s.inFlow || s.indents.head?.any (fun indent => decide (column ≤ indent)) then s
  else ({ s with indents := column :: s.indents }).insert at_ [t]

/-- Gives up the possible key of the innermost collection. -/
def dropKey (s : Scan) : Option Scan :=
  match s.keys with
  | some k :: rest => if k.required then none else some { s with keys := none :: rest }
  | _ => some s

/-- Remembers that a key may start here. -/
def saveKey (s : Scan) : Option Scan :=
  if !s.keyAllowed then some s
  else do
    let s ← s.dropKey
    let k : SimpleKey :=
      { token := s.tokens.size
        line := s.place.line
        column := s.place.column
        required := !s.inFlow && s.indents.head? == some s.place.column }
    some { s with keys := some k :: s.keys.drop 1 }

/-- Gives up the possible keys that are too far behind. -/
def dropStaleKeys (s : Scan) : Option Scan := do
  let isStale (k : SimpleKey) : Bool :=
    k.line < s.place.line || k.column + 1024 < s.place.column
  let keys ← s.keys.mapM fun key? =>
    match key? with
    | some k => if !isStale k then some key? else if k.required then none else some none
    | none => some none
  some { s with keys := keys }

/-- Skips gaps and comments in front of a token.  A tab does not indent: where a key may start in a
block collection, it is left. -/
def skipSilent : Nat → Scan → Scan
  | 0, s => s
  | fuel + 1, s =>
    let p := s.place
    let p := if p.column == 0 && p.rest.head? == some '\ufeff' then p.skip 1 else p
    let tabs := s.inFlow || !s.keyAllowed
    let p := p.skipWhile fun c => c == ' ' || (tabs && c == '\t')
    let p := if p.rest.head? == some '#' then p.toLineEnd else p
    let s := s.goTo p
    if p.rest.head?.any isBreak then
      skipSilent fuel ((s.goTo p.next).allowKey (s.keyAllowed || !s.inFlow))
    else s

/-- Takes a token of some characters off the text. -/
def take (n : Nat) (t : Token) (s : Scan) : Scan := (s.goTo (s.place.skip n)).push t

/-- Reads a directive. -/
def readDirective (s : Scan) : Option Scan := do
  let s ← (s.close none).dropKey
  let (d, p) ← Yaml.readDirective s.place
  some (((s.allowKey false).goTo p).push (.directive d))

/-- Reads a mark between documents. -/
def readDocumentMark (t : Token) (s : Scan) : Option Scan := do
  let s ← (s.close none).dropKey
  some ((s.allowKey false).take 3 t)

/-- Reads the start of a flow collection. -/
def readFlowStart (t : Token) (s : Scan) : Option Scan := do
  let s ← s.saveKey
  some (({ s with keys := none :: s.keys }.allowKey true).take 1 t)

/-- Reads the end of a flow collection. -/
def readFlowEnd (t : Token) (s : Scan) : Option Scan := do
  let s ← s.dropKey
  let s := if s.inFlow then { s with keys := s.keys.drop 1 } else s
  some ((s.allowKey false).take 1 t)

/-- Reads the comma of a flow collection. -/
def readFlowEntry (s : Scan) : Option Scan := do
  let s ← s.dropKey
  some ((s.allowKey true).take 1 .flowEntry)

/-- Reads the mark of a block entry or of a key, which may open a collection. -/
def readBlockMark (collection mark : Token) (allowed : Bool) (s : Scan) : Option Scan := do
  if !s.inFlow && !s.keyAllowed then none
  else
    let s ← (s.openBlock s.place.column s.tokens.size collection).dropKey
    some ((s.allowKey allowed).take 1 mark)

/-- Reads the colon in front of a value.  If there is a possible key, it is one. -/
def readValue (s : Scan) : Option Scan :=
  match s.keys with
  | some k :: rest =>
    let s := ({ s with keys := none :: rest }.insert k.token [.key])
    some (((s.openBlock k.column k.token .blockMapping).allowKey false).take 1 .value)
  | _ =>
    if !s.inFlow && !s.keyAllowed then none
    else
      let s := s.openBlock s.place.column s.tokens.size .blockMapping
      some ((s.allowKey (!s.inFlow)).take 1 .value)

/-- Reads something that may start a key and in whose middle none may start. -/
def readNode (read : Place → Option (Token × Place)) (s : Scan) : Option Scan := do
  let s ← s.saveKey
  let (t, p) ← read s.place
  some (((s.allowKey false).goTo p).push t)

/-- Reads a plain scalar. -/
def readPlain (s : Scan) : Option Scan := do
  let s ← s.saveKey
  let (text, endsLine, p) ← Yaml.readPlain s.inFlow s.least s.place
  some (((s.allowKey endsLine).goTo p).push (.scalar (String.ofList text) .plain))

/-- Reads a block of lines. -/
def readBlock (folded : Bool) (s : Scan) : Option Scan := do
  let s ← s.dropKey
  let (text, p) ← Yaml.readBlock folded s.least (s.place.skip 1)
  let style := if folded then Style.folded else Style.literal
  some (((s.allowKey true).goTo p).push (.scalar (String.ofList text) style))

/-- Reads a quoted scalar. -/
def readQuoted (quote : Char) (s : Scan) : Option Scan :=
  s.readNode fun p =>
    (Yaml.readQuoted quote p).map fun (text, p) => (.scalar (String.ofList text) .quoted, p)

/-- Reads the token at the place, before which there are no gaps. -/
def readToken (s : Scan) : Option Scan :=
  match s.place.rest with
  | [] => none
  | c :: rest =>
    let flow := s.inFlow
    if c == '%' && s.place.column == 0 then s.readDirective
    else if s.place.atMark '-' then s.readDocumentMark .documentStart
    else if s.place.atMark '.' then s.readDocumentMark .documentEnd
    else if c == '[' then s.readFlowStart .flowSequence
    else if c == '\x7b' then s.readFlowStart .flowMapping
    else if c == ']' then s.readFlowEnd .flowSequenceEnd
    else if c == '\x7d' then s.readFlowEnd .flowMappingEnd
    else if c == ',' then s.readFlowEntry
    else if c == '-' && atGap rest then s.readBlockMark .blockSequence .blockEntry true
    else if c == '?' && (flow || atGap rest) then s.readBlockMark .blockMapping .key (!flow)
    else if c == ':' && (flow || atGap rest) then s.readValue
    else if c == '*' then
      s.readNode fun p => (readName (p.skip 1)).map fun (name, p) => (.reference name, p)
    else if c == '&' then
      s.readNode fun p => (readName (p.skip 1)).map fun (name, p) => (.anchor name, p)
    else if c == '!' then s.readNode fun p => (readTag flow p).map fun (t, p) => (.tag t, p)
    else if c == '|' && !flow then s.readBlock false
    else if c == '>' && !flow then s.readBlock true
    else if c == '\x27' || c == '"' then s.readQuoted c
    else if isSpace c || isIndicator c then none
    else s.readPlain

/-- Reads all tokens that are left. -/
def readAll : Nat → Scan → Option (List Token)
  | 0, _ => none
  | fuel + 1, s => do
    let s ← (s.skipSilent s.place.fuel).dropStaleKeys
    if s.place.rest.isEmpty then
      let s ← (s.close none).dropKey
      some s.tokens.toList
    else
      let s ← (s.close (some s.place.column)).readToken
      readAll fuel s

end Scan

/-- The tokens of a text. -/
def tokens (s : String) : Option (List Token) := do
  let cs ← uniform s.toList
  Scan.readAll (cs.length + 1) (.start cs)

end Yaml

end FilterStore
