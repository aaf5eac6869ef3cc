import FilterStore.Engine.Execution
import FilterStore.Proofs.Engine.Transaction

/-!
# Steps that stay in a transaction

What a statement does to rows and to the schema is made of many small steps.  None of them begins a
transaction or ends one: only the statements that are there for that do, and the end of a statement
that is stopped.  This is proved step by step, from the inside out; what triggers do and what
follows along references is the same kind of change once more, one level down.

A step with several branches all of which end in the same few steps is taken apart by a loop over
those steps.
-/

namespace FilterStore.Engine

open Sql (Change Conflict Definition Expr Fault Statement)

namespace Step

variable {α β : Type}

/-- A step neither begins a transaction nor ends one. -/
def Steady (s : Step α) : Prop := ∀ c, (s.run c).2.transaction = c.transaction

section Combinators

variable {s : Step α} {f : α → Step β}

theorem steady_pure (a : α) : Steady (pure a : Step α) := fun _ => rfl

theorem steady_stop (f : Fault) : Steady (stop f : Step α) := fun _ => rfl

theorem steady_throw (h : Halt) : Steady (throw h : Step α) := fun _ => rfl

theorem steady_ofExcept (e : Except Fault α) : Steady (ofExcept e) := fun _ => rfl

theorem steady_get : Steady (get : Step Connection) := fun _ => rfl

theorem steady_modify {f : Connection → Connection}
    (h : ∀ c, (f c).transaction = c.transaction) : Steady (modify f : Step Unit) := h

theorem steady_bind (hs : Steady s) (hf : ∀ a, Steady (f a)) : Steady (s >>= f) := by
  intro c
  have first := hs c
  rw [run_bind]
  rcases hr : s.run c with ⟨e | a, c'⟩ <;> rw [hr] at first
  · exact first
  · exact (hf a c').trans first

theorem steady_tryCatch {h : Halt → Step α} (hs : Steady s) (hh : ∀ e, Steady (h e)) :
    Steady (tryCatch s h) := by
  intro c
  have first := hs c
  rw [run_tryCatch]
  rcases hr : s.run c with ⟨e | a, c'⟩ <;> rw [hr] at first
  · exact (hh e c').trans first
  · exact first

theorem steady_ite {p : Prop} [Decidable p] {s t : Step α} (hs : Steady s) (ht : Steady t) :
    Steady (if p then s else t) := by
  split
  · exact hs
  · exact ht

/-- A guard stops the step or lets it go on. -/
theorem steady_guard {p : Prop} [Decidable p] (f : Fault) {s : PUnit → Step α}
    (hs : Steady (s ⟨⟩)) : Steady (if p then stop f >>= s else s ⟨⟩) :=
  steady_ite (steady_bind (steady_stop f) fun _ => hs) hs

theorem steady_forM {f : α → Step Unit} (xs : List α) (hf : ∀ x, Steady (f x)) :
    Steady (xs.forM f) := by
  induction xs with
  | nil => exact steady_pure ()
  | cons x xs ih => exact steady_bind (hf x) fun _ => ih

theorem steady_mapM (xs : List α) (hf : ∀ x, Steady (f x)) : Steady (xs.mapM f) := by
  induction xs with
  | nil => exact steady_pure []
  | cons x xs ih =>
    rw [List.mapM_cons]
    exact steady_bind (hf x) fun _ => steady_bind ih fun _ => steady_pure _

theorem steady_foldlM {f : β → α → Step β} (xs : List α) (hf : ∀ b x, Steady (f b x)) (b : β) :
    Steady (xs.foldlM f b) := by
  induction xs generalizing b with
  | nil => exact steady_pure b
  | cons x xs ih =>
    rw [List.foldlM_cons]
    exact steady_bind (hf b x) ih

end Combinators

/-! ## What steps look at -/

theorem steady_world (parameters : List Cell) : Steady (world parameters) :=
  steady_bind steady_get fun _ => steady_pure _

theorem steady_table (name : String) : Steady (table name) := by
  refine steady_bind steady_get fun c => ?_
  split
  · exact steady_pure _
  · exact steady_stop _

theorem steady_modifyTable (name : String) (f : Table → Table) : Steady (modifyTable name f) :=
  steady_modify fun _ => rfl

theorem steady_count : Steady count := steady_modify fun _ => rfl

/-! ## References -/

theorem steady_owed (later : Bool) : Steady (owed later) :=
  steady_bind steady_get fun _ => steady_pure _

theorem steady_owe (later : Bool) (n : Int) : Steady (owe later n) :=
  steady_modify fun _ => by split <;> rfl

theorem steady_parentOf (r : Sql.Reference) : Steady (parentOf r) :=
  steady_bind steady_get fun _ => steady_pure _

theorem steady_leaveParent (row : Row) (reference : Table × Sql.Reference) :
    Steady (leaveParent row reference) := by
  refine steady_bind (steady_parentOf _) fun found => ?_
  split
  · exact steady_pure _
  · exact steady_bind (steady_owed _) fun _ => steady_ite (steady_owe _ _) (steady_pure _)

theorem steady_joinParent (row : Row) (reference : Table × Sql.Reference) :
    Steady (joinParent row reference) := by
  refine steady_bind (steady_parentOf _) fun found => ?_
  split
  · exact steady_pure _
  · exact steady_ite (steady_owe _ _) (steady_pure _)

theorem steady_referring (t : Table) (row : Row) (reference : Table × Sql.Reference) :
    Steady (referring t row reference) := by
  refine steady_bind steady_get fun c => ?_
  simp only []
  split
  · exact steady_pure _
  · exact steady_pure _

theorem steady_leave (event : Event) (t : Table) (row : Row) : Steady (leave event t row) := by
  refine steady_bind steady_get fun c => steady_ite ?_ (steady_pure _)
  refine steady_bind (steady_forM _ (steady_leaveParent row)) fun _ =>
    steady_forM _ fun reference => ?_
  exact steady_bind (steady_referring t row reference) fun _ => steady_owe _ _

theorem steady_join (event : Event) (t : Table) (row : Row) : Steady (join event t row) := by
  refine steady_bind steady_get fun c => steady_ite ?_ (steady_pure _)
  refine steady_bind (steady_forM _ (steady_joinParent row)) fun _ =>
    steady_forM _ fun reference => ?_
  refine steady_bind (steady_owed _) fun _ => steady_ite ?_ (steady_pure _)
  exact steady_bind (steady_referring t row reference) fun _ => steady_owe _ _

theorem steady_requireSettled (later : Bool) : Steady (requireSettled later) :=
  steady_bind (steady_owed later) fun _ => steady_ite (steady_stop _) (steady_pure _)

/-! ## Rows -/

theorem steady_refuse (conflict : Conflict) (fault : Fault) :
    Steady (refuse conflict fault : Step α) :=
  steady_ite (steady_stop _) (steady_throw _)

theorem steady_filledCell (w : World) (given : Option Conflict) (t : Table) (column : Sql.Column)
    (cell : Cell) : Steady (filledCell w given t column cell) := by
  refine steady_ite ?_ (steady_pure _)
  split
  · exact steady_ofExcept _
  · exact steady_refuse _ _
  · exact steady_refuse _ _

theorem steady_requireCells (w : World) (given : Option Conflict) (t : Table) (row : Row) :
    Steady (requireCells w given t row) := by
  refine steady_bind (steady_mapM _ fun _ => steady_filledCell _ _ _ _ _) fun cells => ?_
  refine steady_bind (steady_forM _ fun _ => ?_) fun _ => steady_pure _
  exact steady_ite (steady_refuse _ _) (steady_pure _)

theorem steady_requireChecks (w : World) (given : Option Conflict) (t : Table) (row : Row) :
    Steady (requireChecks w given t row) :=
  steady_forM _ fun _ => steady_bind (steady_ofExcept _) fun _ =>
    steady_ite (steady_refuse _ _) (steady_pure _)

theorem steady_besideNumber (given : Option Conflict) (t : Table) (row : Row) (others : List Row) :
    Steady (besideNumber given t row others) := by
  refine steady_ite ?_ (steady_pure _)
  split
  · exact steady_pure _
  · exact steady_refuse _ _

theorem steady_besideValues (w : World) (given : Option Conflict) (t : Table) (row : Row)
    (others : List Row) (u : Uniqueness) : Steady (besideValues w given t row others u) := by
  refine steady_bind (steady_ofExcept _) fun rival => ?_
  split
  · exact steady_pure _
  · split
    · exact steady_pure _
    · exact steady_refuse _ _

theorem steady_beside (w : World) (given : Option Conflict) (t : Table) (row : Row)
    (others : List Row) : Steady (beside w given t row others) := by
  refine steady_bind steady_get fun c => steady_ite ?_ ?_
  · exact steady_bind (steady_foldlM _ (steady_besideValues w given t row) _) fun _ =>
      steady_besideNumber _ _ _ _
  · exact steady_bind (steady_besideNumber _ _ _ _) fun _ =>
      steady_foldlM _ (steady_besideValues w given t row) _

theorem steady_removeRow (table : String) (id : Int64) : Steady (removeRow table id) :=
  steady_modifyTable _ _

theorem steady_storeRow {pushedOut : Table → Row → Step Unit}
    (h : ∀ t row, Steady (pushedOut t row)) (event : Event) (given : Option Conflict)
    (table : String) (old : Option Row) (row : Row) :
    Steady (storeRow pushedOut event given table old row) := by
  refine steady_bind (steady_table _) fun t => steady_bind (steady_world _) fun w => ?_
  refine steady_bind (steady_requireCells _ _ _ _) fun row => ?_
  refine steady_bind (steady_requireChecks _ _ _ _) fun _ => ?_
  refine steady_bind (steady_beside _ _ _ _ _) fun staying => ?_
  refine steady_bind (steady_forM _ fun r => ?_) fun _ => ?_
  · exact steady_bind (steady_leave _ _ _) fun _ =>
      steady_bind (steady_removeRow _ _) fun _ => h _ _
  refine steady_bind ?_ fun _ => ?_
  · cases old with
    | none => exact steady_pure _
    | some r => exact steady_bind (steady_leave _ _ _) fun _ => steady_removeRow _ _
  refine steady_bind (steady_table _) fun _ => steady_bind (steady_join _ _ _) fun _ => ?_
  exact steady_bind (steady_modifyTable _ _) fun _ => steady_count

/-! ## Changes -/

theorem steady_numbering (t : Table) : Steady (numbering t) := by
  intro c
  unfold numbering
  simp only [run_bind, run_get]
  split <;> rfl

theorem steady_noteNumber (t : Table) (id : Int64) : Steady (noteNumber t id) :=
  steady_ite (steady_bind (steady_numbering t) fun _ => steady_modify fun _ => rfl) (steady_pure _)

theorem steady_nextNumber (t : Table) : Steady (nextNumber t) := by
  unfold nextNumber
  simp only []
  with_reducible repeat' first
    | exact steady_stop _ | exact steady_pure _ | exact steady_numbering _
    | refine steady_bind ?_ fun _ => ?_ | split

theorem steady_recordNumbers : Steady recordNumbers :=
  steady_bind steady_get fun _ => steady_forM _ fun _ =>
    steady_ite (steady_modifyTable _ _) (steady_pure _)

theorem steady_leavable {row : Step Unit} (h : Steady row) : Steady (leavable row) :=
  steady_tryCatch h fun _ => steady_ite (steady_pure _) (steady_throw _)

theorem steady_current (table : String) (id : Int64) : Steady (current table id) := by
  refine steady_bind (steady_table _) fun t => ?_
  split
  · exact steady_pure _
  · exact steady_stop _

section Fire

/-- What follows from a change of a row is steady. -/
def SteadyFire (fire : Fire) : Prop :=
  ∀ given time event t old new, Steady (fire given time event t old new)

variable {fire : Fire}

theorem steady_displaced (h : SteadyFire fire) (t : Table) (row : Row) :
    Steady (displaced fire t row) := h _ _ _ _ _ _

theorem steady_insertOne (h : SteadyFire fire) (given : Option Conflict) (t : Table)
    (cells : List (Slot × Cell)) : Steady (insertOne fire given t cells) := by
  refine steady_bind (steady_ofExcept _) fun number => steady_bind (steady_world _) fun w => ?_
  refine steady_bind (steady_ofExcept _) fun values => steady_bind (h _ _ _ _ _ _) fun _ => ?_
  refine steady_bind (steady_table _) fun now => ?_
  have stored := steady_storeRow (steady_displaced h)
  have fired : ∀ time event t old new, Steady (fire given time event t old new) := h given
  simp only []
  with_reducible repeat' first
    | exact steady_pure _ | exact steady_nextNumber _ | exact steady_noteNumber _ _
    | exact stored _ _ _ _ _ | exact steady_modify fun _ => rfl | exact fired _ _ _ _ _
    | refine steady_bind ?_ fun _ => ?_ | split

theorem steady_updateOne (h : SteadyFire fire) (given : Option Conflict) (t : Table)
    (frames : List Frame) (parameters : List Cell) (slots : List (Slot × Expr))
    (names : List String) (id : Int64) :
    Steady (updateOne fire given t frames parameters slots names id) := by
  refine steady_bind (steady_current _ _) fun old => steady_bind (steady_world _) fun w => ?_
  refine steady_bind (steady_mapM _ fun _ => ?_) fun cells => ?_
  · exact steady_bind (steady_ofExcept _) fun _ => steady_pure _
  refine steady_bind (steady_ofExcept _) fun early => steady_bind (h _ _ _ _ _ _) fun _ => ?_
  refine steady_bind (steady_current _ _) fun now => steady_bind (steady_ofExcept _) fun row => ?_
  exact steady_bind (steady_storeRow (steady_displaced h) _ _ _ _ _) fun _ => h _ _ _ _ _ _

theorem steady_deleteOne (h : SteadyFire fire) (t : Table) (id : Int64) :
    Steady (deleteOne fire t id) := by
  refine steady_bind (steady_current _ _) fun old => steady_bind (h _ _ _ _ _ _) fun _ => ?_
  refine steady_bind (steady_current _ _) fun now => steady_bind (steady_leave _ _ _) fun _ => ?_
  refine steady_bind (steady_removeRow _ _) fun _ => steady_bind steady_count fun _ => ?_
  exact h _ _ _ _ _ _

theorem steady_change (h : SteadyFire fire) (parameters : List Cell) (frames : List Frame)
    (outer : Option Conflict) (c : Change) : Steady (change fire parameters frames outer c) := by
  cases c with
  | select s =>
    exact steady_bind (steady_world _) fun _ =>
      steady_bind (steady_ofExcept _) fun _ => steady_pure _
  | insert own table columns source =>
    refine steady_bind (steady_table _) fun t => ?_
    have inserted := fun given t cells => steady_leavable (steady_insertOne h given t cells)
    simp only []
    with_reducible repeat' first
      | exact steady_pure _ | exact steady_numbering _ | exact steady_ofExcept _
      | exact steady_world _ | exact steady_forM _ fun cells => inserted _ _ _
      | refine steady_bind ?_ fun _ => ?_ | split
  | update own table assignments condition =>
    refine steady_bind (steady_table _) fun t => steady_bind (steady_ofExcept _) fun slots => ?_
    refine steady_bind (steady_world _) fun w => steady_bind (steady_ofExcept _) fun ids => ?_
    exact steady_forM _ fun id => steady_leavable (steady_updateOne h _ _ _ _ _ _ _)
  | delete table condition =>
    refine steady_bind (steady_table _) fun t => steady_bind (steady_world _) fun w => ?_
    refine steady_bind (steady_ofExcept _) fun ids => ?_
    exact steady_forM _ fun id => steady_leavable (steady_deleteOne h _ _)

end Fire

theorem steady_aside {statement : Step Unit} (h : Steady statement) : Steady (aside statement) :=
  steady_bind steady_get fun _ => steady_bind h fun _ => steady_modify fun _ => rfl

theorem steady_followReferences {perform : Change → Step Unit} (h : ∀ c, Steady (perform c))
    (event : Event) (t : Table) (old : Row) (new : Option Row) :
    Steady (followReferences perform event t old new) := by
  refine steady_bind steady_get fun c =>
    steady_ite (steady_forM _ fun reference => ?_) (steady_pure _)
  simp only []
  split
  · exact steady_pure _
  · refine steady_ite (steady_pure _) ?_
    split
    · exact steady_pure _
    · exact steady_aside (h _)

/-- To any depth. -/
theorem steady_follow (depth : Nat) (active : List String) : SteadyFire (follow depth active) := by
  induction depth generalizing active with
  | zero => exact fun _ _ _ _ _ _ => steady_stop _
  | succ depth ih =>
    intro given time event t old new
    have perform : ∀ active given statement,
        Steady (change (follow depth active) [] (t.triggerFrames old new) given statement) :=
      fun active _ _ => steady_change (ih active) _ _ _ _
    have body := fun (active : List String) (body : List Change) =>
      steady_forM body fun statement => steady_aside (perform active given statement)
    unfold follow
    simp only []
    with_reducible repeat' first
      | exact steady_followReferences (perform _ _) _ _ _ _ | exact steady_get | exact body _ _
      | exact steady_world _ | exact steady_ofExcept _ | exact steady_pure _
      | refine steady_forM _ fun _ => ?_ | refine steady_bind ?_ fun _ => ?_ | split

/-! ## The schema -/

theorem steady_addObject (temporary : Bool) (o : SchemaObject) : Steady (addObject temporary o) :=
  steady_modify fun _ => rfl

theorem steady_nameIsFree (n : Sql.Creation) : Steady (nameIsFree n) := by
  refine steady_bind steady_get fun c => steady_bind (steady_ofExcept _) fun _ => ?_
  split
  · exact steady_ite (steady_pure _) (steady_stop _)
  · exact steady_ite (steady_stop _) (steady_pure _)

theorem steady_createNumbering : Steady createNumbering :=
  steady_bind steady_get fun _ => steady_ite (steady_addObject _ _) (steady_pure _)

theorem steady_createTable (n : Sql.Creation) (parts : Sql.TableParts) (text rest : String) :
    Steady (createTable n parts text rest) := by
  refine steady_bind (steady_nameIsFree n) fun free => steady_ite ?_ (steady_pure _)
  have checked := fun (f : Sql.WrittenExpr → Except Fault Unit) =>
    steady_forM parts.checks fun check => steady_ofExcept (f check)
  simp only []
  repeat' first
    | exact steady_stop _ | exact steady_pure _ | exact steady_get | exact checked _
    | exact steady_addObject _ _ | exact steady_createNumbering
    | refine steady_bind ?_ fun _ => ?_ | split

theorem steady_isOwn (name : String) : Steady (isOwn name) :=
  steady_bind steady_get fun _ => steady_pure _

theorem steady_alteredTable (name : String) : Steady (alteredTable name) := by
  refine steady_bind steady_get fun c => steady_guard _ (steady_bind (steady_isOwn _) fun own => ?_)
  exact steady_guard _ (steady_table _)

theorem steady_requireConditions (t : Table) (checks : List Sql.WrittenExpr) :
    Steady (requireConditions t checks) := by
  refine steady_bind steady_get fun c =>
    steady_bind (steady_forM _ fun _ => steady_ofExcept _) fun _ => ?_
  refine steady_forM _ fun check => steady_forM _ fun row =>
    steady_bind (steady_ofExcept _) fun _ => ?_
  exact steady_ite (steady_stop _) (steady_pure _)

theorem steady_addColumn (table : String) (column : Sql.Column) (parts : Sql.TableParts)
    (text : String) : Steady (addColumn table column parts text) := by
  refine steady_bind (steady_alteredTable _) fun t => steady_guard _ ?_
  simp only []
  with_reducible repeat' first
    | exact steady_stop _ | exact steady_pure _ | exact steady_get | exact steady_world _
    | exact steady_ofExcept _ | exact steady_modifyTable _ _ | exact steady_table _
    | exact steady_requireConditions _ _
    | refine steady_bind ?_ fun _ => ?_ | split

theorem steady_indexedTable (name : String) : Steady (indexedTable name) := by
  refine steady_bind steady_get fun c => steady_guard _ ?_
  refine steady_bind (steady_isOwn _) fun own => steady_guard _ ?_
  split
  · exact steady_pure _
  · exact steady_stop _

theorem steady_requireDistinct (w : World) (t : Table) (u : Uniqueness) (rows : List Row) :
    Steady (requireDistinct w t u rows) := by
  induction rows with
  | nil => exact steady_pure _
  | cons row rest ih =>
    refine steady_bind (steady_ofExcept _) fun rival => ?_
    split
    · exact steady_stop _
    · exact ih

theorem steady_createIndex (ifNotExists : Bool) (i : Index) :
    Steady (createIndex ifNotExists i) := by
  refine steady_bind (steady_indexedTable _) fun t => steady_bind (steady_ofExcept _) fun _ => ?_
  refine steady_bind steady_get fun c => steady_guard _ ?_
  refine steady_ite (steady_ite (steady_stop _) (steady_pure _)) ?_
  refine steady_bind steady_get fun c' => steady_bind (steady_ofExcept _) fun _ => ?_
  refine steady_ite ?_ (steady_addObject _ _)
  exact steady_bind (steady_world _) fun w =>
    steady_bind (steady_requireDistinct _ _ _ _) fun _ => steady_addObject _ _

theorem steady_triggeredObject (table : String) : Steady (triggeredObject table) := by
  refine steady_bind steady_get fun c => ?_
  simp only []
  split
  · exact steady_pure _
  · exact steady_bind (steady_isOwn _) fun _ => steady_ite (steady_pure _) (steady_stop _)

theorem steady_createTrigger (n : Sql.Creation) (g : Trigger) : Steady (createTrigger n g) := by
  refine steady_bind steady_get fun c => steady_bind (steady_triggeredObject _) fun owner => ?_
  refine steady_bind (steady_ofExcept _) fun _ => ?_
  refine steady_ite (steady_ite (steady_stop _) (steady_pure _)) ?_
  refine steady_ite (steady_stop _) (steady_guard _ (steady_guard _ (steady_addObject _ _)))

theorem steady_createView (n : Sql.Creation) (v : View) : Steady (createView n v) :=
  steady_guard _ <| steady_bind (steady_nameIsFree n) fun _ =>
    steady_ite (steady_addObject _ _) (steady_pure _)

theorem steady_empty (t : Table) : Steady (empty t) := by
  refine steady_bind (steady_forM _ fun row => ?_) fun _ => ?_
  · refine steady_bind (steady_leave _ _ _) fun _ => steady_bind (steady_removeRow _ _) fun _ => ?_
    exact steady_follow _ _ _ _ _ _ _ _
  · exact steady_bind (steady_requireSettled _) fun _ => steady_modify fun _ => rfl

theorem steady_mustBeEmptied (t : Table) : Steady (mustBeEmptied t) :=
  steady_bind steady_get fun _ => steady_pure _

theorem steady_forgetNumbers (t : Table) : Steady (forgetNumbers t) :=
  steady_ite (steady_modifyTable _ _) (steady_pure _)

theorem steady_removeOwner (name : String) : Steady (removeOwner name) := steady_modify fun _ => rfl

theorem steady_dropOwner (kind : Sql.ObjectKind) (ifExists : Bool) (name : String) :
    Steady (dropOwner kind ifExists name) := by
  refine steady_bind steady_get fun c => steady_bind (steady_isOwn _) fun own => steady_guard _ ?_
  cases c.database.object? [.table, .view] name with
  | none => exact steady_ite (steady_pure _) (steady_stop _)
  | some o =>
    have removed : Steady (removeOwner name) := steady_removeOwner _
    refine steady_guard _ ?_
    cases o with
    | table t =>
      have forgotten : Steady (do forgetNumbers t; removeOwner name) :=
        steady_bind (steady_forgetNumbers _) fun _ => removed
      exact steady_bind steady_get fun c => steady_bind (steady_ofExcept _) fun _ =>
        steady_bind (steady_mustBeEmptied _) fun _ =>
          steady_ite (steady_bind (steady_empty _) fun _ => forgotten) forgotten
    | index | trigger | view => exact removed

theorem steady_dropSingle (kind : Sql.ObjectKind) (ifExists : Bool) (name : String) :
    Steady (dropSingle kind ifExists name) := by
  refine steady_bind steady_get fun c => steady_ite (steady_modify fun _ => rfl) ?_
  exact steady_ite (steady_modify fun _ => rfl) (steady_ite (steady_pure _) (steady_stop _))

theorem steady_silent {s : Step Unit} (h : Steady s) : Steady (silent s) :=
  steady_bind h fun _ => steady_pure _

theorem steady_define (d : Definition) : Steady (define d) := by
  cases d with
  | addColumn => exact steady_addColumn _ _ _ _
  | createTable => exact steady_silent (steady_createTable _ _ _ _)
  | createIndex => exact steady_silent (steady_createIndex _ _)
  | createTrigger => exact steady_silent (steady_createTrigger _ _)
  | createView => exact steady_silent (steady_createView _ _)
  | dropTable | dropView => exact steady_silent (steady_dropOwner _ _ _)
  | dropIndex | dropTrigger => exact steady_silent (steady_dropSingle _ _ _)

/-! ## Statements as a whole -/

theorem steady_goBack (before : Connection) : Steady (goBack before) := steady_modify fun _ => rfl

/-- Outside of a transaction there is none to leave. -/
theorem steady_settle : Steady settle := by
  refine steady_bind (steady_requireSettled false) fun _ c => ?_
  show ((if c.transaction.isNone then (do requireSettled true; leaveTransaction) else pure () :
    Step Unit).run c).2.transaction = c.transaction
  rcases open? : c.transaction with _ | t
  · show ((do requireSettled true; leaveTransaction : Step Unit).run c).2.transaction = none
    rw [run_bind, run_requireSettled]
    by_cases owing : 0 < c.owedLater
    · simp only [owing, if_true, open?]
    · simp only [owing, if_true, if_false]
      rfl
  · exact open?

end Step

end FilterStore.Engine
