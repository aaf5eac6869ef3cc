import FilterStore.Engine.Comparison
import FilterStore.Sql.Statement

/-!
# Operators

What the operators with an operand on each side make of two cells.  Arithmetic is exact as long as
both operands are integers and so is the result; else it is done with doubles.  Operators on bits
take the integers that their operands count as.  A condition is true, false, or unknown.
-/

namespace FilterStore.Engine

open Sql (BinaryOp Collation)

/-! ## Arithmetic -/

/-- An integer if it fits 64 bits, else the double nearest to it. -/
def integerOr (exact : Int) (otherwise : Float) : Cell :=
  match Number.int64? exact with
  | some n => .integer n
  | none => .real otherwise

/-- Computes with numbers: exactly where both are integers, else with doubles. -/
def compute (exact : Int → Int → Int) (rounded : Float → Float → Float) (a b : Cell) : Cell :=
  match operand a, operand b with
  | .null, _ | _, .null => .null
  | .integer m, .integer n =>
    integerOr (exact m.toInt n.toInt) (rounded (Float.ofInt m.toInt) (Float.ofInt n.toInt))
  | a, b => realResult (rounded (doubleOf a) (doubleOf b))

/-- Divides.  Integers are divided toward zero, and by zero there is no quotient. -/
def divide (a b : Cell) : Cell :=
  match operand a, operand b with
  | .null, _ | _, .null => .null
  | .integer m, .integer n =>
    if n = 0 then .null
    else integerOr (m.toInt.tdiv n.toInt) (Float.ofInt m.toInt / Float.ofInt n.toInt)
  | a, b => if doubleOf b == 0.0 then .null else realResult (doubleOf a / doubleOf b)

/-- The integer a cell counts as: a number without its fraction, or the digits a text starts
with. -/
def wholeOf : Cell → Int64
  | .null => 0
  | .integer n => n
  | .real x => truncated x
  | .text s => leadingInteger s
  | .blob bytes => leadingInteger (Text.ofBytes bytes)

/-- The remainder of a division toward zero, of the integers that the operands count as.  It is a
double if one of the operands is. -/
def remainder (a b : Cell) : Cell :=
  let n := wholeOf b
  let r := (wholeOf a).toInt.tmod n.toInt
  match operand a, operand b with
  | .null, _ | _, .null => .null
  | .integer _, .integer _ => if n = 0 then .null else .integer (Int64.ofInt r)
  | _, _ => if n = 0 then .null else .real (Float.ofInt r)

/-- The bits of an integer. -/
def bitsOf (n : Int64) : Nat := n.toUInt64.toNat

/-- The integer of some bits. -/
def ofBits (n : Nat) : Int64 := Int64.ofNat n

/-- Computes with the bits of the integers that the operands count as. -/
def onBits (f : Int64 → Int64 → Int64) (a b : Cell) : Cell :=
  match a, b with
  | .null, _ | _, .null => .null
  | a, b => .integer (f (wholeOf a) (wholeOf b))

/-- Shifts an integer to the left; what leaves the 64 bits is lost. -/
def shiftedLeft (n : Int64) (places : Nat) : Int64 :=
  if 64 ≤ places then 0 else ofBits (bitsOf n <<< places)

/-- Shifts an integer to the right, its sign going with it. -/
def shiftedRight (n : Int64) (places : Nat) : Int64 :=
  Int64.ofInt (n.toInt >>> min places 64)

/-- Shifts an integer; a negative number of places means the other direction. -/
def shift (left : Bool) (n places : Int64) : Int64 :=
  let size := places.toInt.natAbs
  if left == decide (0 ≤ places) then shiftedLeft n size else shiftedRight n size

/-- All bits of the integer that a cell counts as turned over. -/
def complement : Cell → Cell
  | .null => .null
  | c => .integer (-(wholeOf c) - 1)

/-- Joins texts. -/
def concat (a b : Cell) : Cell :=
  match textOf? a, textOf? b with
  | some s, some t => .text (s ++ t)
  | _, _ => .null

/-! ## Conditions -/

/-- Conjunction where null is unknown. -/
def conjunction : Option Bool → Option Bool → Option Bool
  | some false, _ | _, some false => some false
  | some true, some true => some true
  | _, _ => none

/-- Disjunction where null is unknown. -/
def disjunction : Option Bool → Option Bool → Option Bool
  | some true, _ | _, some true => some true
  | some false, some false => some false
  | _, _ => none

/-- Applies a binary operator to cells whose comparison goes by a collation and leans as given. -/
def applyBinary (op : BinaryOp) (collation : Collation) (l : Leaning) (a b : Cell) : Cell :=
  let compared := fun (holds : Ordering → Bool) =>
    ofTruth ((compareOperands collation l a b).map holds)
  let identical := let (a, b) := leant l a b; sameBy collation a b
  match op with
  | .or => ofTruth (disjunction (truth a) (truth b))
  | .and => ofTruth (conjunction (truth a) (truth b))
  | .equal => compared (· == .eq)
  | .notEqual => compared (· != .eq)
  | .less => compared (· == .lt)
  | .lessEqual => compared (· != .gt)
  | .greater => compared (· == .gt)
  | .greaterEqual => compared (· != .lt)
  | .is => Value.flag identical
  | .isNot => Value.flag !identical
  | .add => compute (· + ·) (· + ·) a b
  | .subtract => compute (· - ·) (· - ·) a b
  | .multiply => compute (· * ·) (· * ·) a b
  | .divide => divide a b
  | .remainder => remainder a b
  | .bitAnd => onBits (fun m n => ofBits (bitsOf m &&& bitsOf n)) a b
  | .bitOr => onBits (fun m n => ofBits (bitsOf m ||| bitsOf n)) a b
  | .shiftLeft => onBits (shift true) a b
  | .shiftRight => onBits (shift false) a b
  | .concat => concat a b

end FilterStore.Engine
