import FilterStore.Proofs.Query.Forest
import FilterStore.Proofs.Query.Reading
import Mathlib.Data.List.SplitBy

/-!
# What a filter means

A filter is a forest, and what it means is read off its trees.  Inside a group, and at the top, the
trees stand in a line, each joined to the one before it.  The line is cut at `OR`; one of the
alternatives has to hold.  An alternative is cut at `AND` and `NOT` into runs, which all have to
hold, a run behind a `NOT` negated.  A run has `XOR` between its trees, and they are combined from
the left by exclusive or.  How the first tree of a line is joined does not matter, since there is
nothing before it.

Clauses may be unknown, and then so may what is made of them: this is the logic of the engine.
-/

namespace FilterStore

open Engine (conjunction disjunction)

/-- Exclusive or; unknown if an operand is. -/
def exclusive : Option Bool → Option Bool → Option Bool
  | some a, some b => some (a != b)
  | _, _ => none

/-! ## Meaning -/

namespace Meaning

variable {α : Type}

/-- Cuts a line of trees into alternatives. -/
def alternatives (line : List (Connective × α)) : List (List (Connective × α)) :=
  line.splitBy fun _ x => x.1 != .or

/-- Cuts an alternative into runs. -/
def runs (alternative : List (Connective × α)) : List (List (Connective × α)) :=
  alternative.splitBy fun _ x => x.1 == .xor

/-- What a run means, by how its first tree is joined. -/
def ofRun : List (Connective × Option Bool) → Option Bool
  | [] => some true
  | (c, v) :: rest =>
    let combined := (rest.map (·.2)).foldl exclusive v
    if c = .not then combined.map Bool.not else combined

/-- All runs hold. -/
def ofAlternative (alternative : List (Connective × Option Bool)) : Option Bool :=
  ((runs alternative).map ofRun).foldl conjunction (some true)

/-- One of the alternatives holds. -/
def ofLine : List (Connective × Option Bool) → Option Bool
  | [] => some true
  | (_, v) :: rest =>
    ((alternatives ((.and, v) :: rest)).map ofAlternative).foldl disjunction (some false)

end Meaning

namespace Forest

/-- The trees of a forest whose clauses have truth values, the first of them a number: how each is
joined, and what it means. -/
def line (joining : Connective) (ν : Nat → Option Bool) :
    Nat → Forest → List (Connective × Option Bool)
  | _, nil => []
  | n, leaf l rest => (l.connective?.getD joining, ν n) :: rest.line joining ν (n + 1)
  | n, group c inside rest =>
    (c.getD joining, Meaning.ofLine (inside.line joining ν n)) ::
      rest.line joining ν (n + inside.leaves.length)

/-- What a forest means if the clauses in it have truth values. -/
def meaning (joining : Connective) (ν : Nat → Option Bool) (f : Forest) : Option Bool :=
  Meaning.ofLine (f.line joining ν 0)

end Forest

/-! ## Truth values of formulas -/

namespace Reading

/-- Whether a formula holds if its clauses have truth values. -/
def Formula.truth (ν : Nat → Option Bool) : Formula → Option Bool
  | .clause n _ => ν n
  | .negated e => (e.truth ν).map Bool.not
  | .both e f => conjunction (e.truth ν) (f.truth ν)
  | .either e f => disjunction (e.truth ν) (f.truth ν)
  | .differ e f => exclusive (e.truth ν) (f.truth ν)

theorem truth_ofTruth (v : Option Bool) : Engine.truth (Engine.ofTruth v) = v := by
  match v with
  | none => rfl
  | some true => rfl
  | some false => rfl

/-- Two conditions differ if exactly one of them holds. -/
theorem applyBinary_notEqual_ofTruth (v w : Option Bool) :
    Engine.applyBinary .notEqual .binary .asTheyAre (Engine.ofTruth v) (Engine.ofTruth w) =
      Engine.ofTruth (exclusive v w) := by
  match v, w with
  | none, none => rfl
  | none, some true => rfl
  | none, some false => rfl
  | some true, none => rfl
  | some false, none => rfl
  | some true, some true => rfl
  | some true, some false => rfl
  | some false, some true => rfl
  | some false, some false => rfl

/-- **The engine computes truth values.** -/
theorem Formula.cell_eq (ν : Nat → Option Bool) (e : Formula) :
    e.cell ν = Engine.ofTruth (e.truth ν) := by
  induction e with
  | clause n body => rfl
  | negated e ih => rw [cell, ih, truth_ofTruth, truth]
  | both e f ihe ihf =>
    rw [cell, ihe, ihf, Engine.applyBinary, truth_ofTruth, truth_ofTruth, truth]
  | either e f ihe ihf =>
    rw [cell, ihe, ihf, Engine.applyBinary, truth_ofTruth, truth_ofTruth, truth]
  | differ e f ihe ihf => rw [cell, ihe, ihf, applyBinary_notEqual_ofTruth, truth]

end Reading

end FilterStore
