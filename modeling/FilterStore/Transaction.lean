/-!
# Work as a whole

Work on a state can be made whole: it is begun, it is done, and in the end it is kept.  If it fails,
or if it cannot be kept, it is undone.  How that is done is for the state to say.

Work that could not be begun is not done, and there is nothing to undo.
-/

namespace FilterStore

/-- How work on a state is begun, kept and undone. -/
structure Bounds (ε σ : Type) where
  begin : ExceptT ε (StateM σ) Unit
  commit : ExceptT ε (StateM σ) Unit
  undo : StateM σ Unit

namespace Bounds

variable {ε σ τ α : Type}

/-- Makes work whole. -/
def whole (b : Bounds ε σ) (work : ExceptT ε (StateM σ) α) : ExceptT ε (StateM σ) α := do
  b.begin
  tryCatch
    (do
      let a ← work
      b.commit
      pure a)
    fun e => do
      ExceptT.lift b.undo
      throw e

/-- Work on a state that is a part of another one. -/
def onPart (get : τ → σ) (put : σ → τ → τ) (work : StateM σ α) : StateM τ α :=
  modifyGet fun t =>
    let (a, s) := work.run (get t)
    (a, put s t)

/-- The bounds of work on a state of which another one is a part. -/
def around (b : Bounds ε σ) (get : τ → σ) (put : σ → τ → τ) : Bounds ε τ where
  begin := ExceptT.mk (onPart get put b.begin.run)
  commit := ExceptT.mk (onPart get put b.commit.run)
  undo := onPart get put b.undo

end Bounds

end FilterStore
