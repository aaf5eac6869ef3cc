import FilterStore.Proofs.Outcome
import FilterStore.Query.Clause

/-!
# The position of a clause

A clause is compiled together with its position in the filter, and the position is written into
every error.  It is written nowhere else: whether a clause compiles, and into which condition, is the
same wherever the clause stands.  Each operator is followed down to the places where it can fail,
and at each of them the position is in the error alone.
-/

namespace FilterStore

namespace RawClause

/-- What the check of a raw clause lets through: a text that is not blank, and a cell for each
placeholder. -/
structure Accepted (raw : RawClause) : Prop where
  not_blank : Text.trim raw.sql ≠ ""
  arity : Placeholder.count raw.sql = raw.values.length

theorem check_eq_ok_iff {raw : RawClause} {index : Nat} {u : Unit} :
    raw.check index = .ok u ↔ raw.Accepted := by
  have split : raw.Accepted ↔
      Text.trim raw.sql ≠ "" ∧ Placeholder.count raw.sql = raw.values.length :=
    ⟨fun h => ⟨h.not_blank, h.arity⟩, fun h => ⟨h.1, h.2⟩⟩
  rw [split]
  by_cases blank : Text.trim raw.sql = "" <;>
    by_cases arity : Placeholder.count raw.sql = raw.values.length <;>
    simp [check, blank, arity]

/-- Checking has no result but success. -/
theorem check_toOption (raw : RawClause) (i j : Nat) :
    (raw.check i).toOption = (raw.check j).toOption := by
  ext
  rw [toOption_eq_some_iff, toOption_eq_some_iff, check_eq_ok_iff, check_eq_ok_iff]

end RawClause

namespace Clause

@[simp] theorem located_toOption {α : Type} (index : Nat) (column : String)
    (x : Except Unencodable α) : (located index column x).toOption = x.toOption := by
  cases x <;> rfl

namespace Context

@[simp] theorem invalid_toOption {α : Type} (x : Context) (operator : String)
    (fault : OperandFault) : (x.invalid operator fault : Except Error α).toOption = none := rfl

variable (x : Context) (i : Nat) (operator : String) (operand : Option Operand)

theorem listCells_toOption :
    (({ x with index := i } : Context).listCells operator operand).toOption =
      (x.listCells operator operand).toOption := by
  unfold listCells
  split <;> simp

theorem someCells_toOption :
    (({ x with index := i } : Context).someCells operator operand).toOption =
      (x.someCells operator operand).toOption := by
  simp only [someCells, toOption_bind, listCells_toOption x i]
  congr 1
  funext cells
  split <;> rfl

theorem between_toOption :
    (({ x with index := i } : Context).between operator operand).toOption =
      (x.between operator operand).toOption := by
  simp only [between, toOption_bind, listCells_toOption x i]
  congr 1
  funext cells
  split <;> rfl

theorem member_toOption :
    (({ x with index := i } : Context).member operator operand).toOption =
      (x.member operator operand).toOption := by
  unfold member
  split
  · simp only [toOption_bind, RawClause.check_toOption _ i x.index]
  · simp only [toOption_bind, someCells_toOption x i]

theorem all_toOption :
    (({ x with index := i } : Context).all operator operand).toOption =
      (x.all operator operand).toOption := by
  unfold all
  split
  · rfl
  · simp only [toOption_bind, someCells_toOption x i]

theorem single_toOption :
    (({ x with index := i } : Context).single operator operand).toOption =
      (x.single operator operand).toOption := by
  unfold single
  split
  · rfl
  · simp only [toOption_bind, RawClause.check_toOption _ i x.index]
  · rfl
  · simp only [toOption_bind, located_toOption]

theorem rows_toOption :
    (({ x with index := i } : Context).rows operator operand).toOption =
      (x.rows operator operand).toOption := by
  unfold rows
  split
  · simp only [toOption_bind, RawClause.check_toOption _ i x.index]
  · rfl

end Context

/-- The condition of an operator does not depend on the position. -/
theorem condition_toOption (x : Context) (i : Nat) (o : Operator) (operand : Option Operand) :
    (condition { x with index := i } o operand).toOption = (condition x o operand).toOption := by
  cases o <;>
    simp only [condition, Context.rows_toOption x i, Context.between_toOption x i,
      Context.member_toOption x i, Context.all_toOption x i, Context.single_toOption x i,
      toOption_ok]

end Clause

/-- **What a clause is compiled into does not depend on its position.** -/
theorem ColumnClause.compile_toOption (r : Registry) (t : TableDefinition) (i j : Nat)
    (c : ColumnClause) : (c.compile r t i).toOption = (c.compile r t j).toOption := by
  unfold compile
  split
  · rfl
  · simp only
    split
    · rfl
    · exact Clause.condition_toOption { index := j, column := _, affinity := _ } i _ _

end FilterStore
