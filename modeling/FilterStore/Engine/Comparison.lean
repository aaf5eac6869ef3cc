import FilterStore.Engine.Conversion
import FilterStore.Sql.Statement

/-!
# How the engine compares cells

Cells of different kinds are ordered by kind: null, numbers, texts, blobs.  Numbers are compared by
their exact values, texts as a collation says, blobs byte by byte.

Before two operands are compared, the affinity of one may convert the other.  An operand has an
affinity if it is a column or a conversion to a type; a bound value has none.  If one side is
numeric, texts that spell numbers are read as numbers; if one side is a text column and the other
has no affinity, numbers are compared by their texts.
-/

namespace FilterStore.Engine

open Number (Binary)
open Sql (Collation)

/-- Compares an integer with a finite double exactly. -/
def compareExactly (n : Int) (x : Float) : Ordering :=
  let b := Binary.ofFloat x
  compare (n * b.denominator) (b.signed b.numerator)

/-- Compares an integer with a double. -/
def compareMixed (n : Int) (x : Float) : Ordering :=
  if x.isFinite then compareExactly n x
  else if x < 0.0 then .gt
  else .lt

/-- Compares doubles. -/
def compareDoubles (x y : Float) : Ordering :=
  if x < y then .lt
  else if y < x then .gt
  else .eq

/-- Where the kind of a cell stands in the order. -/
def kindRank : Cell → Nat
  | .null => 0
  | .integer _ | .real _ => 1
  | .text _ => 2
  | .blob _ => 3

/-- The order of cells, texts by a collation. -/
def orderBy (c : Collation) : Cell → Cell → Ordering
  | .integer m, .integer n => compare m.toInt n.toInt
  | .integer m, .real y => compareMixed m.toInt y
  | .real x, .integer n => (compareMixed n.toInt x).swap
  | .real x, .real y => compareDoubles x y
  | .text s, .text t => c.order s t
  | .blob a, .blob b => compare (a.map UInt8.toNat) (b.map UInt8.toNat)
  | a, b => compare (kindRank a) (kindRank b)

/-- Whether two cells are equal by a collation. -/
def sameBy (c : Collation) (a b : Cell) : Bool := orderBy c a b == .eq

/-- Whether two cells are equal. -/
def same (a b : Cell) : Bool := sameBy .binary a b

/-- Whether an affinity is one of numbers. -/
def isNumeric : Affinity → Bool
  | .integer | .real | .numeric => true
  | .text | .blob => false

/-- How the operands of a comparison are converted. -/
inductive Leaning
  | asNumbers
  | asTexts
  | asTheyAre
  deriving DecidableEq, Repr

/-- The conversion that two affinities ask for. -/
def leaning : Option Affinity → Option Affinity → Leaning
  | some a, some b => if isNumeric a || isNumeric b then .asNumbers else .asTheyAre
  | some a, none | none, some a =>
    if isNumeric a then .asNumbers
    else if a = .text then .asTexts
    else .asTheyAre
  | none, none => .asTheyAre

def isText : Cell → Bool
  | .text _ => true
  | _ => false

/-- The operands of a comparison, converted. -/
def leant (l : Leaning) (a b : Cell) : Cell × Cell :=
  match l with
  | .asNumbers => (numbered a, numbered b)
  | .asTexts => if isText a || isText b then (spelled a, spelled b) else (a, b)
  | .asTheyAre => (a, b)

/-- Compares two operands; with null there is no answer. -/
def compareOperands (c : Collation) (l : Leaning) (a b : Cell) : Option Ordering :=
  match leant l a b with
  | (.null, _) | (_, .null) => none
  | (a, b) => some (orderBy c a b)

/-- Whether an operand equals one of several: no answer if none does but one of them, or the operand
itself, is null. -/
def isAmong (c : Collation) (l : Leaning) (a : Cell) (items : List Cell) : Option Bool :=
  let answers := items.map fun b => (compareOperands c l a b).map (· == .eq)
  if answers.contains (some true) then some true
  else if answers.contains none then none
  else some false

end FilterStore.Engine
