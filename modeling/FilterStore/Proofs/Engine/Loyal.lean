import FilterStore.Proofs.Engine.Execution
import FilterStore.Proofs.Engine.Steady

/-!
# Who may end a transaction

A statement that fails is undone, and sometimes the whole transaction is undone with it.  But no
statement leaves the transaction that is open in any other way, unless it is there for that.  So
what a batch or a query did in a transaction can still be undone as a whole, or has been.
-/

namespace FilterStore.Engine

open Sql (Change Fault Statement)

section Loyal

variable {ε α β : Type}

/-- Work on a connection does not leave the transaction in which it is done, unless it fails and the
transaction is undone. -/
def Loyal (w : ExceptT ε (StateM Connection) α) : Prop :=
  ∀ c, (w.run c).2.transaction = c.transaction ∨
    (∃ e, (w.run c).1 = .error e) ∧ (w.run c).2.transaction = none ∧
      ∀ t, c.transaction = some t → (w.run c).2.database = t.start

theorem Step.Steady.loyal {s : Step α} (h : s.Steady) : Loyal s := fun c => .inl (h c)

/-- What follows need only be loyal for what the work before it can answer. -/
theorem loyal_bind_of {w : ExceptT ε (StateM Connection) α}
    {f : α → ExceptT ε (StateM Connection) β} (hw : Loyal w)
    (hf : ∀ a, (∃ c, (w.run c).1 = .ok a) → Loyal (f a)) : Loyal (w >>= f) := by
  intro c
  have first := hw c
  rw [run_bind]
  rcases hr : w.run c with ⟨e | a, c'⟩ <;> rw [hr] at first
  · rcases first with same | ⟨-, undone⟩
    · exact .inl same
    · exact .inr ⟨⟨e, rfl⟩, undone⟩
  · rcases first with same | ⟨⟨e, ok⟩, -⟩
    · have same : c'.transaction = c.transaction := same
      have second := hf a ⟨c, by rw [hr]⟩ c'
      rwa [same] at second
    · cases ok

theorem loyal_bind {w : ExceptT ε (StateM Connection) α}
    {f : α → ExceptT ε (StateM Connection) β} (hw : Loyal w) (hf : ∀ a, Loyal (f a)) :
    Loyal (w >>= f) := loyal_bind_of hw fun a _ => hf a

theorem loyal_pure (a : α) : Loyal (pure a : ExceptT ε (StateM Connection) α) := fun _ => .inl rfl

/-- Undoing as much as a stop says is a failure, behind which the transaction is still open or has
been undone. -/
theorem exists_run_recover (before : Connection) (h : Halt) {c : Connection}
    (same : c.transaction = before.transaction) :
    ∃ e c', (Step.recover before h : Step α).run c = (.error e, c') ∧
      (c'.transaction = before.transaction ∨ c'.transaction = none ∧
        ∀ t, before.transaction = some t → c'.database = t.start) := by
  unfold Step.recover
  cases h.undo with
  | nothing =>
    have settled : Step.Steady (tryCatch Step.settle fun unsettled => do
        Step.goBack before
        throw unsettled) :=
      Step.steady_tryCatch Step.steady_settle fun _ =>
        Step.steady_bind (Step.steady_goBack before) fun _ => Step.steady_throw _
    have stays := settled c
    simp only [run_bind]
    rcases hr : (tryCatch Step.settle fun unsettled => do
        Step.goBack before
        throw unsettled).run c with ⟨e | ⟨⟩, c'⟩ <;> rw [hr] at stays
    · exact ⟨e, c', rfl, .inl (stays.trans same)⟩
    · exact ⟨h, c', rfl, .inl (stays.trans same)⟩
  | statement => exact ⟨h, _, rfl, .inl same⟩
  | transaction =>
    refine ⟨h, { c with
      database := (before.transaction.map Transaction.start).getD before.database
      transaction := none, owedLater := 0 }, ?_, .inr ⟨rfl, fun t ht => ?_⟩⟩
    · unfold Step.undoTransaction
      cases before.transaction <;> rfl
    · rw [ht]
      rfl

theorem loyal_whole {s : Step α} (hs : s.Steady) : Loyal (Step.whole s) := by
  intro c
  have steady : Step.Steady (do let a ← s; Step.settle; Step.recordNumbers; pure a) :=
    Step.steady_bind hs fun _ => Step.steady_bind Step.steady_settle fun _ =>
      Step.steady_bind Step.steady_recordNumbers fun _ => Step.steady_pure _
  have stays := steady (Step.atStart c)
  rw [Step.run_whole]
  rcases hr : (do let a ← s; Step.settle; Step.recordNumbers; pure a : Step α).run
    (Step.atStart c) with ⟨h | a, c'⟩ <;> rw [hr] at stays
  · obtain ⟨e, c'', undone, kept⟩ := exists_run_recover (α := α) c h stays
    simp only [undone]
    rcases kept with same | gone
    · exact .inl same
    · exact .inr ⟨⟨e, rfl⟩, gone⟩
  · exact .inl stays

theorem loyal_wholeChange (parameters : List Cell) (c : Change) :
    Loyal (Step.wholeChange parameters c) := by
  have loyal := loyal_whole
    (Step.steady_change (Step.steady_follow Step.nestingLimit []) parameters [] none c)
  refine loyal_bind (fun before => ?_) fun _ => (Step.steady_modify fun _ => rfl).loyal
  have whole := loyal before
  rw [run_tryCatch]
  rcases hr : (Step.whole (Step.change (Step.follow Step.nestingLimit []) parameters [] none c)).run
    before with ⟨h | ⟨⟩, c'⟩ <;> rw [hr] at whole
  · rcases whole with same | ⟨-, gone⟩
    · exact .inl same
    · exact .inr ⟨⟨h, rfl⟩, gone⟩
  · exact whole

theorem steady_checkTarget (change : Change) : Step.Steady (Step.checkTarget change) :=
  Step.steady_bind Step.steady_get fun _ =>
    Step.steady_ite (Step.steady_stop _) (Step.steady_pure _)

theorem steady_checkSchema (before : Connection) : Step.Steady (Step.checkSchema before) :=
  Step.steady_bind Step.steady_get fun _ =>
    Step.steady_ite (Step.steady_stop _) (Step.steady_pure _)

/-- Whether a statement begins or ends a transaction, or part of one. -/
def controls : Statement → Bool
  | .control _ => true
  | _ => false

/-- A statement leaves a transaction only if it is there for that. -/
theorem loyal_perform (parameters : List Cell) {s : Statement} (h : controls s = false) :
    Loyal (Step.perform parameters s) := by
  cases s with
  | change c =>
    cases c with
    | select s =>
      exact (Step.steady_bind (Step.steady_world _) fun _ =>
        Step.steady_bind (Step.steady_ofExcept _) fun _ => Step.steady_pure _).loyal
    | insert | update | delete =>
      exact loyal_bind (steady_checkTarget _).loyal fun _ =>
        loyal_bind (loyal_wholeChange _ _) fun _ => loyal_pure _
  | define d =>
    refine loyal_bind Step.steady_get.loyal fun before =>
      loyal_bind (loyal_whole ?_) fun _ => loyal_pure _
    exact Step.steady_bind (Step.steady_define d) fun _ =>
      Step.steady_bind (steady_checkSchema _) fun _ => Step.steady_pure _
  | control c => cases h

theorem loyal_ofStep {s : Step α} (h : Loyal s) (source : String) (sql : Option String) :
    Loyal (Work.ofStep source sql s) := by
  intro c
  have stays := h c
  rw [Work.run_ofStep]
  rcases stays with same | ⟨⟨e, failed⟩, gone⟩
  · exact .inl same
  · exact .inr ⟨⟨{ fault := e.fault, source, sql }, by rw [failed]; rfl⟩, gone⟩

theorem loyal_get : Loyal (get : ExceptT ε (StateM Connection) Connection) := fun _ => .inl rfl

theorem loyal_ofExcept (source : String) (sql : Option String) (e : Except Fault α) :
    Loyal (Work.ofExcept source sql e) := fun _ => .inl rfl

theorem loyal_prepareSingle (sql : String) : Loyal (Work.prepareSingle sql) := fun c =>
  .inl (by rw [Work.run_prepareSingle])

/-- A query leaves a transaction only if its statement is there for that. -/
theorem loyal_query (q : Query)
    (h : ∀ p, Sql.Parsed.ofText q.sql = .ok (some p) → controls p.statement = false) :
    Loyal (Work.query q) := by
  refine loyal_bind_of (loyal_prepareSingle q.sql) fun parsed prepared => ?_
  refine loyal_bind (loyal_ofExcept _ _ _) fun _ => ?_
  cases parsed with
  | none => exact fun _ => .inl rfl
  | some parsed =>
    obtain ⟨c, hc⟩ := prepared
    rw [Work.run_prepareSingle] at hc
    have plain := h parsed (Work.parsed_of_prepared hc)
    refine loyal_bind (loyal_ofStep (loyal_perform _ plain) _ _) fun _ => ?_
    exact loyal_bind loyal_get fun _ => loyal_pure _

/-- Whether a text holds a statement that begins or ends a transaction, among so many. -/
def textControls : Nat → String → Bool
  | 0, _ => false
  | fuel + 1, text =>
    match Sql.Parsed.ofText text with
    | .ok (some parsed) => controls parsed.statement || textControls fuel parsed.rest
    | _ => false

theorem textControls_of_single {text : String} {parsed : Sql.Parsed}
    (read : Sql.Parsed.ofText text = .ok (some parsed)) (h : controls parsed.statement = false)
    (rest : Sql.Parsed.ofText parsed.rest = .ok none) (fuel : Nat) :
    textControls fuel text = false := by
  cases fuel with
  | zero => rfl
  | succ fuel =>
    have ended : textControls fuel parsed.rest = false := by
      cases fuel with
      | zero => rfl
      | succ fuel => simp only [textControls, rest]
    simp only [textControls, read, h, ended, Bool.or_false]

theorem loyal_runAll (sql : Option String) {fuel : Nat} {text : String}
    (h : textControls fuel text = false) : Loyal (Work.runAll sql fuel text) := by
  induction fuel generalizing text with
  | zero => exact loyal_pure ()
  | succ fuel ih =>
    refine loyal_bind loyal_get fun c =>
      loyal_bind_of (loyal_ofExcept _ _ _) fun parsed prepared => ?_
    cases parsed with
    | none => exact loyal_pure ()
    | some parsed =>
      obtain ⟨c', hc⟩ := prepared
      rw [Work.run_ofExcept] at hc
      have read := parsed_of_prepare (mapError_eq_ok_iff.mp hc)
      simp only [textControls, read, Bool.or_eq_false_iff] at h
      exact loyal_bind (loyal_ofStep (loyal_perform [] h.1) _ _) fun _ => ih h.2

theorem loyal_ofWork {w : Work α} (h : Loyal w) : Loyal (Action.ofWork w) := by
  intro c
  rw [run_ofWork]
  rcases h c with same | ⟨⟨e, failed⟩, gone⟩
  · exact .inl same
  · exact .inr ⟨⟨.engine e, by rw [failed]; rfl⟩, gone⟩

/-- A batch leaves a transaction only if there is a statement in it for that. -/
theorem loyal_batch {text : String} (h : textControls (text.length + 1) text = false) :
    Loyal (Action.batch text) := loyal_ofWork (loyal_runAll _ h)

end Loyal

end FilterStore.Engine
