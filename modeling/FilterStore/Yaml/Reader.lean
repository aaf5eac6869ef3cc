import FilterStore.Yaml.Token

/-!
# Reading YAML documents

A document is read off the tokens of a text by descent: what a token announces is read, and the
place decides what may stand there and what may be left out.  A text holds at most one document; it
may be opened by `---`, with directives before, and closed by `...`.

Anchors are numbered.  A name that is given to several nodes keeps the number it got last, and the
number of a new name is the count of names before, so that a number can come to stand for a later
node.  References are therefore resolved in the finished document.
-/

namespace FilterStore.Yaml

/-- How far a document is read: the tokens left, the handles of tags, the numbers of anchors, the
anchored node each number stands for, by order, and the anchored nodes by order. -/
structure Reading where
  tokens : List Token
  handles : List (String × String)
  numbers : List (String × Nat)
  orders : List (Nat × Nat)
  nodes : List (Nat × Yaml)

abbrev NodeReader := StateT Reading Option

namespace NodeReader

/-- The next token. -/
def peek : NodeReader (Option Token) := (·.tokens.head?) <$> get

/-- Goes on behind the next token. -/
def skip : NodeReader Unit := modify fun r => { r with tokens := r.tokens.tail }

/-- Goes on behind the next token if it is the expected one, and says whether it was. -/
def accept (t : Token) : NodeReader Bool := do
  let found := (← peek) == some t
  if found then skip
  return found

/-- Whether the next token is one of several. -/
def atOneOf (ts : List Token) : NodeReader Bool :=
  return (← peek).any ts.contains

end NodeReader

open NodeReader

/-- Reads the anchor and the tag of a node, in either order. -/
def readProperties : NodeReader (Option String × Option Tag) := do
  match ← peek with
  | some (.anchor name) =>
    skip
    match ← peek with
    | some (.tag t) =>
      skip
      return (some name, some t)
    | _ => return (some name, none)
  | some (.tag t) =>
    skip
    match ← peek with
    | some (.anchor name) =>
      skip
      return (some name, some t)
    | _ => return (none, some t)
  | _ => return (none, none)

/-- Numbers the node that an anchor names, and counts it among the anchored nodes. -/
def openAnchor (name : String) : NodeReader Nat := do
  let r ← get
  let number := r.numbers.length
  let order := r.orders.length
  set
    { r with
      numbers := (name, number) :: r.numbers.filter fun (other, _) => other != name
      orders := (number, order) :: r.orders }
  return order

/-- Keeps an anchored node. -/
def closeAnchor (order : Nat) (node : Yaml) : NodeReader Unit :=
  modify fun r => { r with nodes := (order, node) :: r.nodes }

/-- Where a node stands: in a block collection, where the items of a sequence may need no further
indentation, or in a flow collection. -/
inductive Site
  | block (indentless : Bool)
  | flow
  deriving DecidableEq

/-- The tag of a scalar that is there: the mark alone says nothing. -/
def scalarTag (tag : Option String) : Option String := if tag == some "!" then none else tag

mutual

/-- Reads a node. -/
def readNode (fuel : Nat) (site : Site) : NodeReader Yaml :=
  match fuel with
  | 0 => failure
  | fuel + 1 => do
    match ← peek with
    | some (.reference name) =>
      skip
      match (← get).numbers.lookup name with
      | some number => return .reference number
      | none => failure
    | _ =>
      let (anchor, tag) ← readProperties
      let tag ←
        match tag with
        | some t =>
          match t.expand (← get).handles with
          | some full => pure (some full)
          | none => failure
        | none => pure none
      let order ← anchor.mapM openAnchor
      let node ← readContent fuel site (anchor.isSome || tag.isSome) tag
      match order with
      | some n => closeAnchor n node
      | none => pure ()
      return node

/-- Reads what a node consists of.  A node with properties may be empty. -/
def readContent (fuel : Nat) (site : Site) (hasProperties : Bool) (tag : Option String) :
    NodeReader Yaml :=
  match fuel with
  | 0 => failure
  | fuel + 1 => do
    match ← peek, site with
    | some .blockEntry, .block true => return .sequence (← readIndentless fuel)
    | some (.scalar text style), _ =>
      skip
      return .scalar text style (scalarTag tag)
    | some .flowSequence, _ =>
      skip
      return .sequence (← readFlowItems fuel true)
    | some .flowMapping, _ =>
      skip
      return .mapping (← readFlowEntries fuel true)
    | some .blockSequence, .block _ =>
      skip
      return .sequence (← readBlockItems fuel)
    | some .blockMapping, .block _ =>
      skip
      return .mapping (← readBlockEntries fuel)
    | _, _ => if hasProperties then return .scalar "" .plain tag else failure

/-- Reads a node unless one of some tokens comes next: then there is none. -/
def readUnless (fuel : Nat) (site : Site) (ts : List Token) : NodeReader Yaml :=
  match fuel with
  | 0 => failure
  | fuel + 1 => do if ← atOneOf ts then return missing else readNode fuel site

/-- Reads the items of a block sequence up to its end. -/
def readBlockItems (fuel : Nat) : NodeReader (List Yaml) :=
  match fuel with
  | 0 => failure
  | fuel + 1 => do
    if ← accept .blockEnd then return []
    else if ← accept .blockEntry then
      let item ← readUnless fuel (.block false) [.blockEntry, .blockEnd]
      return item :: (← readBlockItems fuel)
    else failure

/-- Reads the items of a sequence that is indented like the mapping around it. -/
def readIndentless (fuel : Nat) : NodeReader (List Yaml) :=
  match fuel with
  | 0 => failure
  | fuel + 1 => do
    if ← accept .blockEntry then
      let item ← readUnless fuel (.block false) [.blockEntry, .key, .value, .blockEnd]
      return item :: (← readIndentless fuel)
    else return []

/-- Reads the entries of a block mapping up to its end. -/
def readBlockEntries (fuel : Nat) : NodeReader (List (Yaml × Yaml)) :=
  match fuel with
  | 0 => failure
  | fuel + 1 => do
    if ← accept .blockEnd then return []
    else if ← accept .key then
      let key ← readUnless fuel (.block true) [.key, .value, .blockEnd]
      let value ←
        if ← accept .value then readUnless fuel (.block true) [.key, .value, .blockEnd]
        else pure missing
      return (key, value) :: (← readBlockEntries fuel)
    else failure

/-- Reads the items of a flow sequence up to its end.  An item may be a single entry of a mapping;
of such an entry with no key, the token that shows it is passed over. -/
def readFlowItems (fuel : Nat) (first : Bool) : NodeReader (List Yaml) :=
  match fuel with
  | 0 => failure
  | fuel + 1 => do
    if ← accept .flowSequenceEnd then return []
    else
      let goesOn ← if first then pure true else accept .flowEntry
      if !goesOn then failure
      else if ← accept .key then
        let ends := [Token.flowEntry, .flowSequenceEnd]
        let key ←
          if ← atOneOf (.value :: ends) then
            skip
            pure missing
          else readNode fuel .flow
        let value ← if ← accept .value then readUnless fuel .flow ends else pure missing
        return .mapping [(key, value)] :: (← readFlowItems fuel false)
      else if ← accept .flowSequenceEnd then return []
      else
        let item ← readNode fuel .flow
        return item :: (← readFlowItems fuel false)

/-- Reads the entries of a flow mapping up to its end. -/
def readFlowEntries (fuel : Nat) (first : Bool) : NodeReader (List (Yaml × Yaml)) :=
  match fuel with
  | 0 => failure
  | fuel + 1 => do
    if ← accept .flowMappingEnd then return []
    else
      let goesOn ← if first then pure true else accept .flowEntry
      if !goesOn then failure
      else
        let ends := [Token.flowEntry, .flowMappingEnd]
        if ← accept .key then
          let key ← readUnless fuel .flow (.value :: ends)
          let value ← if ← accept .value then readUnless fuel .flow ends else pure missing
          return (key, value) :: (← readFlowEntries fuel false)
        else if ← accept .flowMappingEnd then return []
        else
          let key ← readNode fuel .flow
          return (key, missing) :: (← readFlowEntries fuel false)

end

/-- Reads the directives of a document. -/
def readDirectives : Nat → Bool → List (String × String) → NodeReader (List (String × String))
  | 0, _, _ => failure
  | fuel + 1, versioned, handles => do
    match ← peek with
    | some (.directive (.version major minor)) =>
      if versioned || major != 1 || !(minor == 1 || minor == 2) then failure
      else
        skip
        readDirectives fuel true handles
    | some (.directive (.handle name start)) =>
      if (handles.lookup name).isSome then failure
      else
        skip
        readDirectives fuel versioned (handles ++ [(name, start)])
    | _ => return handles

/-- Whether the next token ends the content of a document. -/
def atContentEnd : NodeReader Bool :=
  return match ← peek with
    | none | some (.directive _) | some .documentStart | some .documentEnd => true
    | some _ => false

/-- Reads the one document of a text up to the end. -/
def readDocument (fuel : Nat) : NodeReader (Option Yaml) := do
  match ← peek with
  | none => return none
  | first =>
    let node ←
      match first with
      | some (.directive _) | some .documentStart =>
        let handles ← readDirectives fuel false []
        modify fun r => { r with handles := handles ++ standardHandles }
        if ← accept .documentStart then
          if ← atContentEnd then pure missing else readNode fuel (.block false)
        else failure
      | _ => readNode fuel (.block false)
    modify fun r => { r with tokens := r.tokens.dropWhile (· == .documentEnd) }
    if (← peek).isSome then failure else return some node

/-- Reads a text that holds at most one document. -/
def parse (s : String) : Option Document := do
  let ts ← tokens s
  let (root, r) ← (readDocument (4 * ts.length + 4)).run ⟨ts, standardHandles, [], [], []⟩
  some
    { root := root
      anchored := r.orders.filterMap fun (number, order) =>
        (r.nodes.lookup order).map fun node => (number, node) }

end FilterStore.Yaml
