import FilterStore.Engine.PatternFault

/-!
# The structure of patterns

A pattern as it is written: what its characters are and how its parts belong together.  What the
parts mean depends on flags that are switched on and off on the way, so it is not decided here; the
stretches of the text are kept where a part may turn out to be faulty.
-/

namespace FilterStore.Engine

namespace PatternTree

/-- A character that stands for itself.  It may be written as a byte. -/
structure Literal where
  char : Char
  isByte : Bool
  extent : Extent
  deriving Repr

/-- What can be switched on and off. -/
inductive Flag
  | ignoreCase
  | multiLine
  | anyChar
  | swapGreed
  | unicode
  | carriage
  | ignoreSpace
  deriving DecidableEq, Repr

/-- Flags with what they are switched to. -/
abbrev Flags := List (Flag × Bool)

/-- The assertions about a place. -/
inductive Assertion
  | lineStart
  | lineEnd
  | textStart
  | textEnd
  | edge
  | noEdge
  | wordStart
  | wordEnd
  | notInWordBefore
  | notInWordAfter
  deriving DecidableEq, Repr

/-- The classes of one letter. -/
inductive ShortClass
  | digit
  | blank
  | word
  deriving DecidableEq, Repr

/-- What joins two classes. -/
inductive Operator
  | both
  | without
  | unequal
  deriving DecidableEq, Repr

/-- A class of characters. -/
inductive BracketClass
  | empty
  | literal (l : Literal)
  | range (first last : Literal)
  | ascii (name : String) (negated : Bool) (extent : Extent)
  | short (c : ShortClass) (negated : Bool) (extent : Extent)
  /-- A property, or the value of one. -/
  | property (name : String) (value : Option String) (negated : Bool) (extent : Extent)
  | bracketed (negated : Bool) (inside : BracketClass) (extent : Extent)
  | union (items : List BracketClass) (extent : Extent)
  | joined (op : Operator) (left right : BracketClass) (extent : Extent)
  deriving Repr

/-- The stretch of a class, where it is needed. -/
def BracketClass.extent? : BracketClass → Option Extent
  | empty => none
  | literal l => some l.extent
  | range first last => some ⟨first.extent.start, last.extent.stop⟩
  | ascii _ _ e | short _ _ e | property _ _ _ e | bracketed _ _ e | union _ e
  | joined _ _ _ e => some e

end PatternTree

open PatternTree (Literal Flags Assertion BracketClass)

/-- A pattern as it is written. -/
inductive PatternTree
  | empty
  | flags (fs : Flags)
  | literal (l : Literal)
  | dot (extent : Extent)
  | assertion (a : Assertion)
  | cls (c : BracketClass)
  | repetition (p : PatternTree) (least : Nat) (most : Option Nat) (extent : Extent)
  | group (fs : Flags) (p : PatternTree) (extent : Extent)
  | alternation (ps : List PatternTree) (extent : Extent)
  | concatenation (ps : List PatternTree) (extent : Extent)
  deriving Repr

namespace PatternTree

/-! ## Depth -/

mutual

/-- The first part of a class that lies too deep, counted from some depth on. -/
def BracketClass.tooDeep? (depth : Nat) : BracketClass → Option Extent
  | .bracketed _ c e => if depth < PatternFault.maxDepth then c.tooDeep? (depth + 1) else some e
  | .union cs e =>
    if depth < PatternFault.maxDepth then BracketClass.anyTooDeep? (depth + 1) cs else some e
  | .joined _ l r e =>
    if depth < PatternFault.maxDepth then
      (l.tooDeep? (depth + 1)).or (r.tooDeep? (depth + 1))
    else some e
  | _ => none

/-- The first part of some classes that lies too deep. -/
def BracketClass.anyTooDeep? (depth : Nat) : List BracketClass → Option Extent
  | [] => none
  | c :: cs => (c.tooDeep? depth).or (BracketClass.anyTooDeep? depth cs)

end

mutual

/-- The first part that lies too deep, counted from some depth on. -/
def tooDeep? (depth : Nat) : PatternTree → Option Extent
  | .cls c => c.tooDeep? depth
  | .repetition p _ _ e | .group _ p e =>
    if depth < PatternFault.maxDepth then p.tooDeep? (depth + 1) else some e
  | .alternation ps e | .concatenation ps e =>
    if depth < PatternFault.maxDepth then anyTooDeep? (depth + 1) ps else some e
  | _ => none

/-- The first part of some patterns that lies too deep. -/
def anyTooDeep? (depth : Nat) : List PatternTree → Option Extent
  | [] => none
  | p :: ps => (p.tooDeep? depth).or (anyTooDeep? depth ps)

end

end PatternTree

end FilterStore.Engine
