import FilterStore.Engine.Pattern
import FilterStore.Engine.PatternReader

/-!
# What patterns mean

The flags in force at a part of a pattern decide what the part matches: whether case matters,
whether a point matches a line feed, whether lines have a start and an end, and whether characters
are those of Unicode or those of ASCII.  A switch is in force up to the end of the group around it,
also over the bars between alternatives.

Without Unicode, a pattern speaks about bytes.  The text is one of characters all the same, so that
only what stays within ASCII is a pattern then.
-/

namespace FilterStore.Engine

open Text (CharSet)

namespace PatternTree

/-- The flags in force. -/
structure Settings where
  ignoreCase : Bool := false
  multiLine : Bool := false
  anyChar : Bool := false
  unicode : Bool := true
  carriage : Bool := false

namespace Settings

/-- A flag switched. -/
def switch (s : Settings) : Flag × Bool → Settings
  | (.ignoreCase, b) => { s with ignoreCase := b }
  | (.multiLine, b) => { s with multiLine := b }
  | (.anyChar, b) => { s with anyChar := b }
  | (.unicode, b) => { s with unicode := b }
  | (.carriage, b) => { s with carriage := b }
  | (.swapGreed, _) | (.ignoreSpace, _) => s

/-- Flags switched one after the other. -/
def switchAll (s : Settings) (fs : Flags) : Settings := fs.foldl switch s

/-- A set closed under case, if case does not matter. -/
def folded (s : Settings) (cs : CharSet) : CharSet :=
  if !s.ignoreCase then cs else if s.unicode then .anyCase cs else .anyAsciiCase cs

/-- The characters of words. -/
def word (s : Settings) : CharSet :=
  if s.unicode then Text.wordCharacters else .ofText "30-39 41-5a 5f 61-7a"

end Settings

/-! ## Classes -/

/-- The ASCII characters of a class with a name. -/
def asciiClass (name : String) : CharSet :=
  let known : List (String × String) :=
    [("alnum", "30-39 41-5a 61-7a"), ("alpha", "41-5a 61-7a"), ("ascii", "0-7f"),
     ("blank", "9 20"), ("cntrl", "0-1f 7f"), ("digit", "30-39"), ("graph", "21-7e"),
     ("lower", "61-7a"), ("print", "20-7e"), ("punct", "21-2f 3a-40 5b-60 7b-7e"),
     ("space", "9-d 20"), ("upper", "41-5a"), ("word", "30-39 41-5a 5f 61-7a"),
     ("xdigit", "30-39 41-46 61-66")]
  .ofText ((known.lookup name).getD "")

/-- The characters of a class of one letter. -/
def shortClass (s : Settings) : ShortClass → CharSet
  | .digit => if s.unicode then Text.decimalNumbers else asciiClass "digit"
  | .blank => if s.unicode then Text.blankCharacters else asciiClass "space"
  | .word => s.word

/-- A set or its complement.  Of bytes, those outside ASCII must not be in it. -/
def negatedIf (s : Settings) (negated : Bool) (extent : Extent) (cs : CharSet) :
    Except PatternFault CharSet :=
  let cs := if negated then .outside cs else cs
  if !s.unicode && cs.contains '\u0080' then
    .error { cause := .matchesBytes, extent := extent }
  else .ok cs

/-- A character of a class.  Without Unicode it has to be one of ASCII. -/
def classChar (s : Settings) (l : Literal) : Except PatternFault Char :=
  if s.unicode || l.char.toNat < 0x80 then .ok l.char
  else .error { cause := if l.isByte then .matchesBytes else .notInBytes, extent := l.extent }

/-- The characters of a property. -/
def propertySet (name : String) (value : Option String) (extent : Extent) :
    Except PatternFault CharSet :=
  match value.elim (Text.NamedSet.ofName name) (Text.NamedSet.ofNamedValue name) with
  | .found cs => .ok cs
  | .unknownName => .error { cause := .unknownProperty, extent := extent }
  | .unknownValue => .error { cause := .unknownPropertyValue, extent := extent }

/-- Two sets joined. -/
def Operator.join : Operator → CharSet → CharSet → CharSet
  | .both, l, r => .both l r
  | .without, l, r => .both l (.outside r)
  | .unequal, l, r => .unequal l r

mutual

/-- The characters of a class. -/
def BracketClass.set (s : Settings) : BracketClass → Except PatternFault CharSet
  | .empty => .ok .empty
  | .literal l => (classChar s l).map .single
  | .range first last => do
    let first ← classChar s first
    let last ← classChar s last
    return .span first last
  | .ascii name negated e => negatedIf s negated e (s.folded (asciiClass name))
  | .short c negated e => negatedIf s negated e (shortClass s c)
  | .property name value negated e => do
    if !s.unicode then throw { cause := .notInBytes, extent := e }
    let cs ← propertySet name value e
    negatedIf s negated e (s.folded cs)
  | .bracketed negated c e => do
    let cs ← c.set s
    negatedIf s negated e (s.folded cs)
  | .union cs _ => return .anyOf (← BracketClass.sets s cs)
  | .joined op l r _ => do
    let l ← l.set s
    let r ← r.set s
    return op.join (s.folded l) (s.folded r)

/-- The characters of each of some classes. -/
def BracketClass.sets (s : Settings) : List BracketClass → Except PatternFault (List CharSet)
  | [] => .ok []
  | c :: cs => do
    let set ← c.set s
    let sets ← BracketClass.sets s cs
    return set :: sets

end

/-! ## Patterns -/

/-- The pattern of a character. -/
def literalPattern (s : Settings) (l : Literal) : Except PatternFault Pattern :=
  if !s.unicode && l.isByte && 0x80 ≤ l.char.toNat then
    .error { cause := .matchesBytes, extent := l.extent }
  else .ok (.oneOf (s.folded (.single l.char)))

/-- The place an assertion is about. -/
def Assertion.place (s : Settings) : Assertion → TextPlace
  | .lineStart => if s.multiLine then .lineStart s.carriage else .textStart
  | .lineEnd => if s.multiLine then .lineEnd s.carriage else .textEnd
  | .textStart => .textStart
  | .textEnd => .textEnd
  | .edge => .wordEdge s.word
  | .noEdge => .noWordEdge s.word
  | .wordStart => .wordStart s.word
  | .wordEnd => .wordEnd s.word
  | .notInWordBefore => .notInWordBefore s.word
  | .notInWordAfter => .notInWordAfter s.word

/-- The characters a point matches. -/
def dotSet (s : Settings) : CharSet :=
  if s.anyChar then .all else .outside (.ofText (if s.carriage then "a d" else "a"))

mutual

/-- The pattern a structure stands for, and the flags in force behind it. -/
def meaning (s : Settings) : PatternTree → Except PatternFault (Pattern × Settings)
  | .empty => .ok (.nil, s)
  | .flags fs => .ok (.nil, s.switchAll fs)
  | .literal l => (literalPattern s l).map (·, s)
  | .dot e =>
    if s.unicode then .ok (.oneOf (dotSet s), s)
    else .error { cause := .matchesBytes, extent := e }
  | .assertion a => .ok (.at (a.place s), s)
  | .cls c => (c.set s).map fun cs => (.oneOf cs, s)
  | .repetition p least most _ => do
    let (q, s) ← p.meaning s
    return (q.times least most, s)
  | .group fs p _ => do
    let (q, _) ← p.meaning (s.switchAll fs)
    return (q, s)
  | .alternation ps _ => alternatives s ps
  | .concatenation ps _ => sequence s ps

/-- The pattern of alternatives. -/
def alternatives (s : Settings) : List PatternTree → Except PatternFault (Pattern × Settings)
  | [] => .ok (.nothing, s)
  | p :: ps => do
    let (q, s) ← p.meaning s
    let (r, s) ← alternatives s ps
    return (q.choose r, s)

/-- The pattern of elements one behind the other. -/
def sequence (s : Settings) : List PatternTree → Except PatternFault (Pattern × Settings)
  | [] => .ok (.nil, s)
  | p :: ps => do
    let (q, s) ← p.meaning s
    let (r, s) ← sequence s ps
    return (q.join r, s)

end

end PatternTree

namespace Pattern

/-- Why a text is refused as a pattern. -/
inductive Refusal
  | fault (f : PatternFault)
  | tooLong
  deriving DecidableEq, Repr

/-- The wording of a refusal. -/
def Refusal.message (pattern : String) : Refusal → String
  | fault f => f.message pattern
  | tooLong => "Compiled regex exceeds size limit of " ++ toString maxSize ++ " bytes."

/-- The pattern that a text is. -/
def parse (s : String) : Except Refusal Pattern :=
  match (PatternTree.parse s).bind fun p => p.meaning {} with
  | .error f => .error (.fault f)
  | .ok (p, _) => if maxSize < p.size then .error .tooLong else .ok p

end Pattern

end FilterStore.Engine
