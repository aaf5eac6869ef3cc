import FilterStore.Text.Property

/-!
# Regular patterns

A pattern matches a stretch of a text.  Whether it does may depend on the characters around the
stretch, because some patterns match an empty stretch only at certain *places*: at the start of the
text or of a line, at its end, or where a word starts or ends.

Matching goes by *remainders*.  What can be left of a pattern when the stretch starts with a given
character is a list of patterns, and each of them is made of parts of the pattern, so that there are
only few.  So a pattern matches a stretch exactly if, its characters taken one after the other, some
remainder matches the empty stretch.
-/

namespace FilterStore.Engine

open Text (CharSet)

/-- A place between two characters of a text, or at an end of it. -/
inductive TextPlace
  | textStart
  | textEnd
  /-- A line ends with a line feed, or also with a carriage return before it or alone. -/
  | lineStart (carriage : Bool)
  | lineEnd (carriage : Bool)
  /-- Where a word of certain characters starts or ends. -/
  | wordEdge (word : CharSet)
  | noWordEdge (word : CharSet)
  | wordStart (word : CharSet)
  | wordEnd (word : CharSet)
  | notInWordBefore (word : CharSet)
  | notInWordAfter (word : CharSet)
  deriving DecidableEq, Repr

namespace TextPlace

/-- Whether there is a character and it is in a set. -/
def isIn (s : CharSet) (c : Option Char) : Bool := c.any s.contains

/-- Whether the place between two characters is of a kind; at the ends of the text there is none. -/
def holds (before after : Option Char) : TextPlace → Bool
  | textStart => before.isNone
  | textEnd => after.isNone
  | lineStart false => before.all (· == '\n')
  | lineEnd false => after.all (· == '\n')
  | lineStart true =>
    before.all fun c => c == '\n' || (c == '\r' && after != some '\n')
  | lineEnd true =>
    after.all fun c => c == '\r' || (c == '\n' && before != some '\r')
  | wordEdge w => isIn w before != isIn w after
  | noWordEdge w => isIn w before == isIn w after
  | wordStart w => !isIn w before && isIn w after
  | wordEnd w => isIn w before && !isIn w after
  | notInWordBefore w => !isIn w before
  | notInWordAfter w => !isIn w after

end TextPlace

/-- A pattern. -/
inductive Pattern
  /-- Matches nothing. -/
  | nothing
  /-- Matches the empty stretch. -/
  | nil
  /-- Matches one character of a set. -/
  | oneOf (s : CharSet)
  /-- Matches the empty stretch at a place. -/
  | at (place : TextPlace)
  | followed (first second : Pattern)
  | either (left right : Pattern)
  | repeated (p : Pattern)
  /-- Matches at least and at most so many stretches, one behind the other. -/
  | counted (p : Pattern) (least : Nat) (most : Option Nat)
  deriving DecidableEq, Repr

namespace Pattern

/-- Whether a pattern matches the empty stretch between two characters; at the ends of the text
there is none. -/
def matchesEmpty (before after : Option Char) : Pattern → Bool
  | nothing | oneOf _ => false
  | nil | repeated _ => true
  | .at place => place.holds before after
  | followed p q => matchesEmpty before after p && matchesEmpty before after q
  | either p q => matchesEmpty before after p || matchesEmpty before after q
  | counted p least _ => least == 0 || matchesEmpty before after p

/-- Whether a pattern matches the empty stretch anywhere. -/
def isOptional : Pattern → Bool
  | nothing | oneOf _ | .at _ => false
  | nil | repeated _ => true
  | followed p q => p.isOptional && q.isOptional
  | either p q => p.isOptional || q.isOptional
  | counted p least _ => least == 0 || p.isOptional

/-- One pattern behind another. -/
def join : Pattern → Pattern → Pattern
  | nothing, _ | _, nothing => nothing
  | nil, q => q
  | p, nil => p
  | p, q => followed p q

/-- One pattern or the other. -/
def choose : Pattern → Pattern → Pattern
  | nothing, q => q
  | p, nothing => p
  | p, q => if p = q then p else either p q

/-- A pattern at least and at most a number of times. -/
def times (p : Pattern) (least : Nat) (most : Option Nat) : Pattern :=
  let least := if p.isOptional then 0 else least
  match least, most with
  | _, some 0 => nil
  | 0, none => repeated p
  | 1, some 1 => p
  | least, most => counted p least most

/-- What can be left of a pattern for a stretch that starts with a character; another stands before
it.  Of the times that are asked for, some may match the empty stretch before the character. -/
def remainders (before : Option Char) (c : Char) : Pattern → List Pattern
  | nothing | nil | .at _ => []
  | oneOf s => if s.contains c then [nil] else []
  | followed p q =>
    (remainders before c p).map (join · q) ++
      (if matchesEmpty before (some c) p then remainders before c q else [])
  | either p q => remainders before c p ++ remainders before c q
  | repeated p => (remainders before c p).map (join · (repeated p))
  | counted p least most =>
    let passed := if matchesEmpty before (some c) p then least - 1 else 0
    (remainders before c p).flatMap fun q =>
      (List.range (passed + 1)).map fun n =>
        join q (times p (least - 1 - n) (most.map (· - 1 - n)))

/-- Whether some of the remainders of a pattern match a stretch at the front of a text, or the
pattern matches a stretch further on.  A character stands before the text. -/
def matchesFrom (p : Pattern) : List Pattern → Option Char → List Char → Bool
  | states, before, [] => states.any (matchesEmpty before none)
  | states, before, c :: rest =>
    states.any (matchesEmpty before (some c)) ||
      matchesFrom p (p :: states.flatMap (remainders before c)).eraseDups (some c) rest

/-- Whether a pattern matches a stretch of a text. -/
def found (p : Pattern) (text : String) : Bool := matchesFrom p [p] none text.toList

/-! ## Size

A pattern with nested counts stands for a long one.  The size is what it takes when it is written
out, in bytes, and a pattern beyond a limit is refused.
-/

/-- How many ranges a set is made of. -/
def rangeCount : CharSet → Nat
  | .ranges rs => rs.length
  | .outside s | .anyCase s | .anyAsciiCase s => rangeCount s
  | .either s t | .both s t | .unequal s t => rangeCount s + rangeCount t

/-- The size of a pattern. -/
def size : Pattern → Nat
  | nothing | nil | .at _ => 32
  | oneOf s => 32 * max 1 (rangeCount s)
  | followed p q => p.size + q.size
  | either p q => p.size + q.size + 32
  | repeated p => p.size + 64
  | counted p least most =>
    least * p.size + (most.elim (p.size + 64) fun m => (m - least) * (p.size + 40))

/-- The greatest size of a pattern. -/
def maxSize : Nat := 10485760

end Pattern

end FilterStore.Engine
