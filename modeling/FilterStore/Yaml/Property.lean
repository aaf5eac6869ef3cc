import FilterStore.Yaml.Scalar

/-!
# Names, tags and directives

A node may carry an anchor, by which references name it, and a tag, which says what kind of thing it
is.  A tag is written in full between angle brackets or behind a *handle*, a short name for what it
starts with; two handles are known to every document, and directives in front of a document define
more of them.  Another directive says the version of YAML.
-/

namespace FilterStore.Yaml

open Number (hexValue?)

/-- A character of names. -/
def isNameChar (c : Char) : Bool := c.isAlphanum || c == '_' || c == '-'

/-- Reads the name of an anchor behind its mark. -/
def readName (p : Place) : Option (String × Place) :=
  let name := p.rest.takeWhile isNameChar
  let p := p.skip name.length
  let ends (c : Char) : Bool := isGap c || ['?', ':', ',', ']', '\x7d', '%', '@', '\x60'].contains c
  if !name.isEmpty && p.rest.head?.all ends then some (String.ofList name, p) else none

/-! ## Tags -/

/-- A tag as it is written: the handle, and what follows it.  Without a handle it is in full. -/
structure Tag where
  handle : String
  suffix : String
  deriving DecidableEq

/-- Reads a byte written as a percent sign and two digits of base sixteen. -/
def readOctet (cs : List Char) : Option (Nat × List Char) :=
  match cs with
  | '%' :: a :: b :: rest => do
    let a ← hexValue? a
    let b ← hexValue? b
    some (16 * a + b, rest)
  | _ => none

/-- Reads bytes that go on a character. -/
def readFurtherOctets : Nat → List Char → Option (List Char × List Char)
  | 0, cs => some ([], cs)
  | n + 1, cs => do
    let (octet, rest) ← readOctet cs
    if 0x80 ≤ octet && octet < 0xc0 then
      let (octets, rest) ← readFurtherOctets n rest
      some (Char.ofNat octet :: octets, rest)
    else none

/-- Reads the bytes of one character, each of them as a character of its own. -/
def readOctets (cs : List Char) : Option (List Char × List Char) := do
  let (octet, rest) ← readOctet cs
  let further ←
    if octet < 0x80 then some 0
    else if 0xc0 ≤ octet && octet < 0xe0 then some 1
    else if 0xe0 ≤ octet && octet < 0xf0 then some 2
    else if 0xf0 ≤ octet && octet < 0xf8 then some 3
    else none
  let (octets, rest) ← readFurtherOctets further rest
  some (Char.ofNat octet :: octets, rest)

/-- A character of tags; some occur only in tags that are written in full. -/
def isTagChar (full : Bool) (c : Char) : Bool :=
  let marks :=
    [';', '/', '?', ':', '@', '&', '=', '+', '$', '.', '%', '!', '~', '*', '\x27', '(', ')']
  isNameChar c || marks.contains c || (full && (c == ',' || c == '[' || c == ']'))

/-- Reads the characters of a tag. -/
def readTagChars (full : Bool) : Nat → Place → Option (List Char × Place)
  | 0, _ => none
  | fuel + 1, p =>
    match p.rest with
    | [] => some ([], p)
    | c :: _ =>
      if !isTagChar full c then some ([], p)
      else do
        let (taken, rest) ← if c == '%' then readOctets p.rest else some ([c], p.rest.drop 1)
        let (more, p) ← readTagChars full fuel (p.skip (p.rest.length - rest.length))
        some (taken ++ more, p)

/-- Reads the handle of a tag: an exclamation mark, or a name between two of them.  A single mark in
front of a name is a handle without its end. -/
def readHandle (p : Place) : List Char × Place :=
  let name := (p.rest.drop 1).takeWhile isNameChar
  let behind := p.skip (1 + name.length)
  if behind.rest.head? == some '!' then ('!' :: name ++ ['!'], behind.skip 1)
  else ('!' :: name, behind)

/-- Reads a tag from its mark on. -/
def readTag (flow : Bool) (p : Place) : Option (Tag × Place) := do
  let (tag, p) ←
    if (p.rest.drop 1).head? == some '<' then do
      let (suffix, p) ← readTagChars true p.fuel (p.skip 2)
      if suffix.isEmpty || p.rest.head? != some '>' then none
      else some (Tag.mk "" (String.ofList suffix), p.skip 1)
    else do
      let (handle, behind) := readHandle p
      let (chars, p) ← readTagChars false p.fuel behind
      if 1 < handle.length && handle.getLast? == some '!' then
        if chars.isEmpty then none
        else some (Tag.mk (String.ofList handle) (String.ofList chars), p)
      else
        let suffix := handle.drop 1 ++ chars
        if suffix.isEmpty then some (Tag.mk "" "!", p)
        else some (Tag.mk "!" (String.ofList suffix), p)
  if atGap p.rest || (flow && p.rest.head? == some ',') then some (tag, p) else none

/-- The handles known to every document, with what they stand for. -/
def standardHandles : List (String × String) := [("!", "!"), ("!!", "tag:yaml.org,2002:")]

/-- A tag in full. -/
def Tag.expand (handles : List (String × String)) (t : Tag) : Option String :=
  if t.handle.isEmpty then some t.suffix
  else (handles.lookup t.handle).map fun start => start ++ t.suffix

/-! ## Directives -/

/-- What a directive says. -/
inductive Directive
  | version (major minor : Nat)
  | handle (name start : String)
  deriving DecidableEq

/-- Reads a number of at most nine digits. -/
def readNumber (p : Place) : Option (Nat × Place) :=
  let digits := p.rest.takeWhile Char.isDigit
  if digits.isEmpty || 9 < digits.length then none
  else
    some (digits.foldl (fun n c => 10 * n + (c.toNat - '0'.toNat)) 0, p.skip digits.length)

/-- Reads what a version directive says. -/
def readVersion (p : Place) : Option (Directive × Place) := do
  let (major, p) ← readNumber (p.skipWhile isSpace)
  if p.rest.head? != some '.' then none
  else
    let (minor, p) ← readNumber (p.skip 1)
    some (.version major minor, p)

/-- Reads what a tag directive says. -/
def readHandleStart (p : Place) : Option (Directive × Place) := do
  let p := p.skipWhile isSpace
  if p.rest.head? != some '!' then none
  else
    let (handle, p) := readHandle p
    if 1 < handle.length && handle.getLast? != some '!' then none
    else if !p.rest.head?.any isSpace then none
    else
      let (start, p) ← readTagChars true p.fuel (p.skipWhile isSpace)
      if start.isEmpty || !atGap p.rest then none
      else some (.handle (String.ofList handle) (String.ofList start), p)

/-- Reads a directive from its mark on, with the line break behind it. -/
def readDirective (p : Place) : Option (Directive × Place) := do
  let name := (p.rest.drop 1).takeWhile isNameChar
  let p := p.skip (1 + name.length)
  if !atGap p.rest then none
  else
    let (directive, p) ←
      if String.ofList name == "YAML" then readVersion p
      else if String.ofList name == "TAG" then readHandleStart p
      else none
    let p := p.skipWhile isSpace
    let p := if p.rest.head? == some '#' then p.toLineEnd else p
    if p.rest.head?.all isBreak then some (directive, p.next) else none

end FilterStore.Yaml
