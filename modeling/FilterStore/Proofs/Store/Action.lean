import FilterStore.Proofs.Engine.Execution
import FilterStore.Proofs.Engine.Transaction
import FilterStore.Proofs.Outcome

/-!
# Transactions of actions

An action that is done as a transaction is begun and kept by the engine's own statements.
-/

namespace FilterStore

open Engine (Connection Transaction)
open Engine.Step (run_commit)

theorem Action.run_control (sql : Option String) (control : Sql.Control) (c : Connection) :
    (Action.ofWork (Engine.Work.control sql control)).run c =
      (((Engine.Step.control control).run c).1.mapError
        fun h => .engine { fault := h.fault, source := "", sql },
        ((Engine.Step.control control).run c).2) := by
  have unfolded : (Action.ofWork (Engine.Work.control sql control)).run c =
      ((((Engine.Step.control control).run c).1.mapError
        fun h => (⟨h.fault, "", sql⟩ : Sql.EngineError)).mapError Failure.engine,
        ((Engine.Step.control control).run c).2) := rfl
  rw [unfolded]
  rcases (Engine.Step.control control).run c with ⟨_ | _, _⟩ <;> rfl

/-- A connection that has begun a transaction. -/
def Engine.Connection.begun (c : Connection) : Connection :=
  { c with transaction := some { start := c.database, byMark := false, marks := [] } }

/-- What work in a transaction leaves as it was. -/
structure Engine.Connection.Keeps (c c' : Connection) : Prop where
  readOnly : c'.readOnly = c.readOnly
  foreignKeys : c'.foreignKeys = c.foreignKeys
  transaction : c'.transaction = c.transaction
  owedLater : c'.owedLater = c.owedLater

theorem Engine.Connection.Keeps.refl (c : Connection) : c.Keeps c := ⟨rfl, rfl, rfl, rfl⟩

theorem Engine.Connection.Keeps.trans {c₁ c₂ c₃ : Connection} (first : c₁.Keeps c₂)
    (second : c₂.Keeps c₃) : c₁.Keeps c₃ where
  readOnly := second.readOnly.trans first.readOnly
  foreignKeys := second.foreignKeys.trans first.foreignKeys
  transaction := second.transaction.trans first.transaction
  owedLater := second.owedLater.trans first.owedLater

theorem Engine.Connection.Keeps.isSome {c c' : Connection} (h : c.Keeps c')
    (opened : c.transaction.isSome) : c'.transaction.isSome :=
  (congrArg Option.isSome h.transaction).trans opened

theorem Action.run_begin_of_idle {c : Connection} (idle : c.transaction = none) :
    bounds.begin.run c = (.ok (), c.begun) := by
  refine (run_control _ _ c).trans ?_
  rw [Engine.Step.run_begin, idle]
  rfl

/-- An action that succeeds, and owes nothing, is kept. -/
theorem Action.run_whole_of_ok {α : Type} {action : Action α} {a : α} {c c' : Connection}
    (idle : c.transaction = none) (done : action.run c.begun = (.ok a, c'))
    (opened : c'.transaction.isSome) (settled : c'.owedLater = 0) :
    (bounds.whole action).run c = (.ok a, { c' with transaction := none, owedLater := 0 }) := by
  refine Bounds.run_whole_of_ok (run_begin_of_idle idle) done ((run_control _ _ c').trans ?_)
  obtain ⟨t, ht⟩ := Option.isSome_iff_exists.mp opened
  rw [run_commit, ht]
  simp only [settled, Int.lt_irrefl, if_false]
  rfl

end FilterStore
