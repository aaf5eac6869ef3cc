import FilterStore.Migration.Run
import FilterStore.Proofs.Outcome

/-!
# What a run does, step by step

A function that has been told everything but the database is a *deed*: it turns a database into
another one, notes something, and succeeds or fails.  Deeds can be done one after the other, up to
the first that fails, and as a transaction.

A run is made of deeds, of changes to the report and the stage, and of events.  The steps of a run
that concern the database are calls of one deed each, however many functions and statements they
are made of: the transaction of an init path is one deed (`Migrations.creation`), and so is the
transaction of an update function (`Ledger.update`).  So what a run leaves behind can be said in a
few equations, one for each step, and what the transactions achieve is a matter of deeds alone.
-/

namespace FilterStore

/-! ## Deeds -/

/-- What turns a database into another one. -/
abbrev Deed (σ ν : Type) := σ → Outcome σ ν

namespace Deed

variable {σ ν : Type}

/-- Does nothing. -/
def skip : Deed σ ν := fun s => { database := s, notes := [], result := .ok () }

/-- Does one thing, and if that succeeds another. -/
def andThen (f g : Deed σ ν) : Deed σ ν := fun s =>
  match (f s).result with
  | .ok () => { g (f s).database with notes := (f s).notes ++ (g (f s).database).notes }
  | .error _ => f s

/-- Does one thing after the other. -/
def all (fs : List (Deed σ ν)) : Deed σ ν := fs.foldr andThen skip

/-- Work of which nothing is noted. -/
def ofWork (work : ExceptT Failure (StateM σ) Unit) : Deed σ ν := fun s =>
  { database := (work.run s).2, notes := [], result := (work.run s).1 }

/-- Does something as a transaction. -/
def whole (b : Bounds Failure σ) (f : Deed σ ν) : Deed σ ν := fun s =>
  match b.begin.run s with
  | (.error e, s) => { database := s, notes := [], result := .error e }
  | (.ok (), s) =>
    let o := f.andThen (ofWork b.commit) s
    match o.result with
    | .ok () => o
    | .error _ => { o with database := (b.undo.run o.database).2 }

theorem andThen_of_ok {f g : Deed σ ν} {s : σ} (h : (f s).result = .ok ()) :
    f.andThen g s =
      { g (f s).database with notes := (f s).notes ++ (g (f s).database).notes } := by
  simp only [andThen, h]

theorem andThen_of_error {f g : Deed σ ν} {s : σ} {e : Failure} (h : (f s).result = .error e) :
    f.andThen g s = f s := by
  simp only [andThen, h]

/-- Two things succeed one after the other when both do. -/
theorem result_andThen_eq_ok_iff {f g : Deed σ ν} {s : σ} :
    (f.andThen g s).result = .ok () ↔
      (f s).result = .ok () ∧ (g (f s).database).result = .ok () := by
  rcases h : (f s).result with e | ⟨⟩
  · simp [andThen_of_error h, h]
  · simp [andThen_of_ok h]

theorem notes_andThen_ofWork (f : Deed σ ν) (work : ExceptT Failure (StateM σ) Unit) (s : σ) :
    (f.andThen (ofWork work) s).notes = (f s).notes := by
  rcases h : (f s).result with e | ⟨⟩
  · rw [andThen_of_error h]
  · rw [andThen_of_ok h]
    exact List.append_nil _

section Whole

variable {b : Bounds Failure σ} {f : Deed σ ν} {s s' : σ}

/-- A transaction that succeeds was begun and kept, and what was done in it succeeded. -/
theorem exists_of_whole_ok (h : (f.whole b s).result = .ok ()) :
    ∃ s' t, b.begin.run s = (.ok (), s') ∧ (f s').result = .ok () ∧
      b.commit.run (f s').database = (.ok (), t) ∧ f.whole b s = { f s' with database := t } := by
  rcases begun : b.begin.run s with ⟨e | ⟨⟩, s'⟩
  · simp only [whole, begun] at h
    cases h
  rcases hr : (f.andThen (ofWork b.commit) s').result with e | ⟨⟩
  · simp only [whole, begun, hr] at h
    cases h
  obtain ⟨done, kept⟩ := result_andThen_eq_ok_iff.mp hr
  refine ⟨s', (b.commit.run (f s').database).2, rfl, done, Prod.ext kept rfl, ?_⟩
  simp only [whole, begun, hr]
  rw [andThen_of_ok done]
  simp only [ofWork, List.append_nil, done]
  exact congrArg (Outcome.mk _ _) kept

/-- What is noted in a transaction is noted by what is done in it. -/
theorem notes_whole (begun : b.begin.run s = (.ok (), s')) :
    (f.whole b s).notes = (f s').notes := by
  rcases hr : (f.andThen (ofWork b.commit) s').result with e | ⟨⟩ <;>
    simp only [whole, begun, hr, notes_andThen_ofWork]

end Whole

end Deed

/-! ## The steps of a run -/

/-- The progress of a run after something has been done. -/
def Progress.through {σ ν : Type} (p : Progress σ ν) (o : Outcome σ ν) : Progress σ ν :=
  { p with database := o.database, trace := p.trace ++ o.notes.map TraceEntry.note }

namespace Running

variable {σ ν : Type}

theorem run_call (f : Deed σ ν) (p : Progress σ ν) :
    (call f).run p = ((f p.database).result, p.through (f p.database)) := rfl

theorem run_report (f : MigrationReport → MigrationReport) (p : Progress σ ν) :
    (report f : Running σ ν Unit).run p = (.ok (), { p with report := f p.report }) := rfl

theorem run_enter (stage : Stage) (p : Progress σ ν) :
    (enter stage : Running σ ν Unit).run p = (.ok (), { p with stage }) := rfl

theorem ofDatabase_eq_call (work : ExceptT Failure (StateM σ) Unit) :
    (ofDatabase work : Running σ ν Unit) = call (Deed.ofWork work) := by
  funext p
  show _ = (_, { p with database := _, trace := p.trace ++ [] })
  rw [List.append_nil]
  rfl

theorem call_skip : (call Deed.skip : Running σ ν Unit) = pure () := by
  funext p
  show (_, { p with database := _, trace := p.trace ++ [] }) = _
  rw [List.append_nil]
  rfl

/-- Two calls are a call of one deed. -/
theorem call_andThen (f g : Deed σ ν) :
    (do call f; call g : Running σ ν Unit) = call (f.andThen g) := by
  funext p
  refine (run_bind _ _ p).trans ?_
  show _ = (call (f.andThen g)).run p
  rw [run_call, run_call]
  rcases hf : f p.database with ⟨database, notes, e | ⟨⟩⟩
  · simp only [Deed.andThen, hf]
  · simp [Deed.andThen, hf, run_call, Progress.through]

theorem forM_call {α : Type} (f : α → Deed σ ν) (xs : List α) :
    (xs.forM fun x => call (f x) : Running σ ν Unit) = call (Deed.all (xs.map f)) := by
  induction xs with
  | nil => exact call_skip.symm
  | cons x xs ih =>
    show (do call (f x); xs.forM fun x => call (f x)) = _
    rw [ih, call_andThen]
    rfl

/-- A transaction around a call is a call. -/
theorem transaction_call (L : Ledger σ) (f : Deed σ ν) :
    transaction L (call f) = call (f.whole L.bounds) := by
  let b : Bounds Failure (Progress σ ν) :=
    L.bounds.around Progress.database fun database p => { p with database }
  have kept : (do let a ← call f; b.commit; pure a : Running σ ν Unit) =
      call (f.andThen (Deed.ofWork L.bounds.commit)) := by
    rw [← call_andThen, ← ofDatabase_eq_call]
    refine congrArg (call f >>= ·) (funext fun ⟨⟩ => ?_)
    exact bind_pure (ofDatabase L.bounds.commit)
  funext p
  have begun : b.begin.run p = ((L.bounds.begin.run p.database).1,
      { p with database := (L.bounds.begin.run p.database).2 }) := rfl
  refine (Bounds.run_whole b (call f) p).trans ?_
  show _ = (call (f.whole L.bounds)).run p
  rw [begun, kept, run_call]
  rcases hb : L.bounds.begin.run p.database with ⟨e | ⟨⟩, s⟩
  · simp [Deed.whole, hb, Progress.through]
  · simp only [Deed.whole, hb, run_call]
    rcases f.andThen (Deed.ofWork L.bounds.commit) s with ⟨t, notes, e | ⟨⟩⟩ <;> rfl

end Running

/-- An update function and the record of its version, as a transaction. -/
def Ledger.update {σ ν : Type} (L : Ledger σ) (r : Registry)
    (u : Int64 × SchemaFunction σ ν) : Deed σ ν :=
  Deed.whole L.bounds (Deed.andThen (u.2 r (some u.1)) (Deed.ofWork (L.append u.1)))

namespace Migrations

variable {σ ν : Type} (m : Migrations σ ν) (L : Ledger σ) (r : Registry)

open Running

/-- The init functions between the statements that make a ledger, as a transaction. -/
def creation : Deed σ ν :=
  Deed.whole L.bounds ((Deed.ofWork L.create).andThen
    ((Deed.all (m.inits.map fun f => f r none)).andThen (Deed.ofWork (L.append m.latest))))

/-- The ready functions, if they are to run. -/
def readiness : Deed σ ν :=
  if m.callsReady then Deed.all (m.readies.map fun f => f r) else Deed.skip

/-- What is left of an event. -/
def told (e : MigrationEvent) : List (TraceEntry ν) :=
  if m.tellsEvents then m.listeners.map fun n => .event n e else []

theorem run_tell (e : MigrationEvent) (p : Progress σ ν) :
    (m.tell e).run p = (.ok (), { p with trace := p.trace ++ m.told e }) := by
  unfold tell told
  split
  · rfl
  · rw [List.append_nil]
    rfl

/-- The progress of a run after an update function. -/
def advance (total : Nat) (p : Progress σ ν) (u : Int64 × SchemaFunction σ ν) : Progress σ ν :=
  let q := p.through (L.update r u p.database)
  { q with
    report := { q.report with applied := q.report.applied ++ [u.1], current := u.1 }
    trace := q.trace ++ m.told (.progress u.1 (q.report.applied.length + 1) total) }

theorem run_runUpdate (total : Nat) (u : Int64 × SchemaFunction σ ν) (p : Progress σ ν) :
    (m.runUpdate L r total u).run p =
      match (L.update r u p.database).result with
      | .ok () => (.ok (), m.advance L r total p u)
      | .error e => (.error e, p.through (L.update r u p.database)) := by
  have called : transaction L (do call (u.2 r (some u.1)); ofDatabase (L.append u.1)) =
      call (L.update r u) := by
    rw [ofDatabase_eq_call, call_andThen, transaction_call]
    rfl
  unfold runUpdate
  rw [called, run_bind, run_call]
  rcases h : (L.update r u p.database).result with e | ⟨⟩
  · rfl
  · refine (run_tell ..).trans ?_
    simp only [advance, List.length_append, List.length_singleton]

theorem run_runInits (p : Progress σ ν) :
    (m.runInits L r).run p =
      let q := { p with
        report := { p.report with path := some .init }
        trace := p.trace ++ m.told (.started .init) }.through (m.creation L r p.database)
      match (m.creation L r p.database).result with
      | .ok () => (.ok (), { q with report := { q.report with current := m.latest } })
      | .error e => (.error e, q) := by
  have called : transaction L (do
      ofDatabase L.create
      m.inits.forM fun f => call (f r none)
      ofDatabase (L.append m.latest)) = call (m.creation L r) := by
    rw [ofDatabase_eq_call, ofDatabase_eq_call, forM_call, call_andThen, call_andThen,
      transaction_call]
    rfl
  unfold runInits
  rw [called, run_bind, run_report]
  simp only [run_bind, run_tell, run_call]
  rcases h : (m.creation L r p.database).result with e | ⟨⟩ <;> rfl

theorem run_run (p : Progress σ ν) :
    (m.run L r).run p =
      match (m.runSchema L r).run p with
      | (.error e, q) => (.error e, q)
      | (.ok (), q) =>
        let o := m.readiness r q.database
        let q := { q with stage := .ready, trace := q.trace ++ m.told .ready }.through o
        match o.result with
        | .ok () => (.ok (), { q with stage := .done, trace := q.trace ++ m.told .done })
        | .error e => (.error e, q) := by
  have called : (do
      if m.callsReady then m.readies.forM fun f => call (f r)
      enter .done
      m.tell .done : Running σ ν Unit) = (do
      call (m.readiness r)
      enter .done
      m.tell .done) := by
    unfold readiness
    split
    · rw [← forM_call]
    · rw [call_skip]
      rfl
  unfold run
  rw [run_bind]
  rcases (m.runSchema L r).run p with ⟨e | ⟨⟩, q⟩
  · rfl
  simp only [called, run_bind, run_tell, run_call, run_enter]
  rcases h : (m.readiness r q.database).result with e | ⟨⟩ <;> rfl

end Migrations

end FilterStore
