import FilterStore.Proofs.Migration.Deed

/-!
# The course of a run

A run looks at what is recorded once and then takes one of two paths.  The init path is one deed.
The update path goes through the pending functions one by one, so its course is settled by how many
of them succeed: `Ledger.Leads` says that some functions do, `Ledger.lead` is the database they lead
to, and `exists_leads` cuts any list where the first one fails.  The progress behind the cut is a
fold of `Migrations.advance`, and what it says of the database, the report and the notes is read off
that fold.

The ready functions run once the path is behind.  So a run that stays in its first stage has failed
on its path, and a run that fails has left the database to the ready functions at most.
-/

namespace FilterStore

/-! ## Notes -/

/-- The note an entry is, if it is one. -/
def TraceEntry.note? {ν : Type} : TraceEntry ν → Option ν
  | .note n => some n
  | .event .. | .handled _ => none

section Notes

variable {σ ν : Type}

/-- The notes among what a run leaves behind. -/
def notesOf (trace : List (TraceEntry ν)) : List ν := trace.filterMap TraceEntry.note?

@[simp] theorem notesOf_append (a b : List (TraceEntry ν)) :
    notesOf (a ++ b) = notesOf a ++ notesOf b := List.filterMap_append

@[simp] theorem notesOf_notes (ns : List ν) : notesOf (ns.map TraceEntry.note) = ns := by
  induction ns with
  | nil => rfl
  | cons n ns ih => simpa [notesOf, TraceEntry.note?] using ih

@[simp] theorem notesOf_told (m : Migrations σ ν) (e : MigrationEvent) :
    notesOf (m.told e) = [] := by
  unfold Migrations.told notesOf
  split <;> simp [TraceEntry.note?]

@[simp] theorem notesOf_through (p : Progress σ ν) (o : Outcome σ ν) :
    notesOf (p.through o).trace = notesOf p.trace ++ o.notes := by
  simp [Progress.through]

end Notes

/-! ## Update functions one after the other -/

namespace Ledger

variable {σ ν : Type} (L : Ledger σ) (r : Registry)

/-- Update functions all succeed, one after the other. -/
def Leads : σ → List (Int64 × SchemaFunction σ ν) → Prop
  | _, [] => True
  | s, u :: us => (L.update r u s).result = .ok () ∧ Leads (L.update r u s).database us

/-- The database to which update functions lead. -/
def lead (s : σ) (us : List (Int64 × SchemaFunction σ ν)) : σ :=
  us.foldl (fun s u => (L.update r u s).database) s

/-- Update functions succeed up to the first that fails. -/
theorem exists_leads (s : σ) (us : List (Int64 × SchemaFunction σ ν)) :
    ∃ done rest, us = done ++ rest ∧ L.Leads r s done ∧
      (rest = [] ∨
        ∃ u us e, rest = u :: us ∧ (L.update r u (L.lead r s done)).result = .error e) := by
  induction us generalizing s with
  | nil => exact ⟨[], [], rfl, trivial, .inl rfl⟩
  | cons u us ih =>
    rcases h : (L.update r u s).result with e | ⟨⟩
    · exact ⟨[], u :: us, rfl, trivial, .inr ⟨u, us, e, rfl, h⟩⟩
    · obtain ⟨done, rest, split, leads, stop⟩ := ih (L.update r u s).database
      exact ⟨u :: done, rest, by rw [split]; rfl, ⟨h, leads⟩, stop⟩

end Ledger

namespace Migrations

variable {σ ν : Type} (m : Migrations σ ν) (L : Ledger σ) (r : Registry)

section Advance

variable (total : Nat) (us : List (Int64 × SchemaFunction σ ν)) (p : Progress σ ν)

theorem database_advance :
    (us.foldl (m.advance L r total) p).database = L.lead r p.database us := by
  induction us generalizing p with
  | nil => rfl
  | cons u us ih => exact ih _

/-- Each function adds its version to those that are reported. -/
theorem report_advance :
    (us.foldl (m.advance L r total) p).report =
      { p.report with
        applied := p.report.applied ++ us.map (·.1)
        current := (us.map (·.1)).getLast?.getD p.report.current } := by
  induction us generalizing p with
  | nil => simp
  | cons u us ih =>
    refine (ih _).trans ?_
    cases us <;> simp [advance, Progress.through, List.getLast?_cons]

/-- The loop goes through the functions that succeed. -/
theorem run_updates_append {done : List (Int64 × SchemaFunction σ ν)} {p : Progress σ ν}
    (h : L.Leads r p.database done) (rest : List (Int64 × SchemaFunction σ ν)) :
    ((done ++ rest).forM (m.runUpdate L r total)).run p =
      (rest.forM (m.runUpdate L r total)).run (done.foldl (m.advance L r total) p) := by
  induction done generalizing p with
  | nil => rfl
  | cons u done ih =>
    show (do m.runUpdate L r total u; (done ++ rest).forM (m.runUpdate L r total)).run p = _
    rw [run_bind, run_runUpdate, h.1]
    exact ih h.2

/-- The loop stops at a function that fails. -/
theorem run_updates_of_error (rest : List (Int64 × SchemaFunction σ ν))
    {u : Int64 × SchemaFunction σ ν} {p : Progress σ ν} {e : Failure}
    (h : (L.update r u p.database).result = .error e) :
    ((u :: rest).forM (m.runUpdate L r total)).run p =
      (.error e, p.through (L.update r u p.database)) := by
  show (do m.runUpdate L r total u; rest.forM (m.runUpdate L r total)).run p = _
  rw [run_bind, run_runUpdate, h]

end Advance

/-! ## The two paths -/

section Path

open Running

variable {m L r} {p : Progress σ ν}

/-- On the init path the database is left to one deed. -/
theorem outcome_of_runInits (m : Migrations σ ν) (L : Ledger σ) (r : Registry) (p : Progress σ ν) :
    ((m.runInits L r).run p).1 = (m.creation L r p.database).result ∧
      ((m.runInits L r).run p).2.database = (m.creation L r p.database).database ∧
      notesOf ((m.runInits L r).run p).2.trace =
        notesOf p.trace ++ (m.creation L r p.database).notes := by
  rw [run_runInits]
  rcases h : (m.creation L r p.database).result with e | ⟨⟩ <;> exact ⟨rfl, rfl, by simp⟩

/-- What is recorded is looked up once. -/
theorem run_runSchema (p : Progress σ ν) :
    (m.runSchema L r).run p =
      ((match L.recorded p.database with
        | .error failure => throw failure
        | .ok .missing => m.runInits L r
        | .ok .unusable => do
          call (Deed.ofWork L.drop)
          report fun x => { x with recovered := true }
          m.runInits L r
        | .ok (.version v) => m.runUpdates L r v : Running σ ν Unit)).run p := by
  rw [← ofDatabase_eq_call]
  rfl

theorem run_runSchema_error {e : Failure} (h : L.recorded p.database = .error e) :
    (m.runSchema L r).run p = (.error e, p) := by
  rw [run_runSchema, h]
  rfl

theorem run_runSchema_missing (h : L.recorded p.database = .ok .missing) :
    (m.runSchema L r).run p = (m.runInits L r).run p := by
  rw [run_runSchema, h]

theorem run_runSchema_unusable (h : L.recorded p.database = .ok .unusable) :
    (m.runSchema L r).run p =
      let q := p.through (Deed.ofWork L.drop p.database)
      match (Deed.ofWork L.drop p.database : Outcome σ ν).result with
      | .ok () =>
        (m.runInits L r).run { q with report := { q.report with recovered := true } }
      | .error e => (.error e, q) := by
  simp only [run_runSchema, h, run_bind, run_call, run_report]
  rcases (Deed.ofWork L.drop p.database : Outcome σ ν).result with e | ⟨⟩ <;> rfl

/-- The progress with which the update path begins. -/
def departed (m : Migrations σ ν) (v : Int64) (p : Progress σ ν) : Progress σ ν :=
  { p with
    report := { p.report with previous := some v, path := some .update, current := v }
    trace := p.trace ++ m.told (.started .update) }

theorem run_runSchema_version {v : Int64} (h : L.recorded p.database = .ok (.version v)) :
    (m.runSchema L r).run p =
      ((m.pending v).forM (m.runUpdate L r (m.pending v).length)).run (m.departed v p) := by
  simp only [run_runSchema, h]
  unfold runUpdates
  simp only [run_bind, run_report, run_tell]
  rfl

/-- The update path goes through when all pending functions succeed. -/
theorem run_runSchema_of_leads {v : Int64} (h : L.recorded p.database = .ok (.version v))
    (hl : L.Leads r p.database (m.pending v)) :
    (m.runSchema L r).run p =
      (.ok (), (m.pending v).foldl (m.advance L r (m.pending v).length) (m.departed v p)) := by
  rw [run_runSchema_version h]
  have through := m.run_updates_append L r (m.pending v).length (p := m.departed v p) hl []
  rw [List.append_nil] at through
  exact through

/-- The update path ends at the first function that fails. -/
theorem run_runSchema_of_update_error {v : Int64} {done us : List (Int64 × SchemaFunction σ ν)}
    {u : Int64 × SchemaFunction σ ν} {e : Failure}
    (h : L.recorded p.database = .ok (.version v)) (split : m.pending v = done ++ u :: us)
    (hl : L.Leads r p.database done)
    (hu : (L.update r u (L.lead r p.database done)).result = .error e) :
    (m.runSchema L r).run p =
      (.error e, (done.foldl (m.advance L r (m.pending v).length) (m.departed v p)).through
        (L.update r u (L.lead r p.database done))) := by
  have reached := m.database_advance L r (m.pending v).length done (m.departed v p)
  have stop := m.run_updates_of_error L r (m.pending v).length us
    ((congrArg (fun s => (L.update r u s).result) reached).trans hu)
  rw [run_runSchema_version h, split]
  rw [split] at stop reached
  rw [m.run_updates_append L r _ (p := m.departed v p) hl, stop, reached]
  rfl

/-- The loop leaves the stage alone, and never says that the run was halted. -/
theorem unchanged_of_runUpdates (total : Nat) (us : List (Int64 × SchemaFunction σ ν))
    (p : Progress σ ν) :
    ((us.forM (m.runUpdate L r total)).run p).2.stage = p.stage ∧
      ((us.forM (m.runUpdate L r total)).run p).2.report.halted = p.report.halted := by
  induction us generalizing p with
  | nil => exact ⟨rfl, rfl⟩
  | cons u us ih =>
    rcases h : (L.update r u p.database).result with e | ⟨⟩
    · rw [run_updates_of_error m L r total us h]
      exact ⟨rfl, rfl⟩
    · have first : L.Leads r p.database [u] := ⟨h, trivial⟩
      have step := m.run_updates_append L r total first us
      rw [List.singleton_append] at step
      rw [step]
      exact ih _

/-- No path changes the stage, or says that the run was halted. -/
theorem unchanged_of_runSchema (m : Migrations σ ν) (L : Ledger σ) (r : Registry)
    (p : Progress σ ν) :
    ((m.runSchema L r).run p).2.stage = p.stage ∧
      ((m.runSchema L r).run p).2.report.halted = p.report.halted := by
  have inits : ∀ p : Progress σ ν, ((m.runInits L r).run p).2.stage = p.stage ∧
      ((m.runInits L r).run p).2.report.halted = p.report.halted := by
    intro p
    rw [run_runInits]
    rcases (m.creation L r p.database).result with e | ⟨⟩ <;> exact ⟨rfl, rfl⟩
  rcases h : L.recorded p.database with e | recorded
  · rw [run_runSchema_error h]
    exact ⟨rfl, rfl⟩
  cases recorded with
  | missing =>
    rw [run_runSchema_missing h]
    exact inits p
  | unusable =>
    rw [run_runSchema_unusable h]
    simp only []
    rcases (Deed.ofWork L.drop p.database : Outcome σ ν).result with e | ⟨⟩
    · exact ⟨rfl, rfl⟩
    · exact inits _
  | version v =>
    rw [run_runSchema_version h]
    exact unchanged_of_runUpdates _ _ _

/-- A run that fails on its path ends there. -/
theorem run_of_schema_error {q : Progress σ ν} {e : Failure}
    (h : (m.runSchema L r).run p = (.error e, q)) : (m.run L r).run p = (.error e, q) := by
  rw [run_run, h]

/-- A run whose path is behind leaves the database to the ready functions. -/
theorem run_of_schema_ok {q : Progress σ ν} (h : (m.runSchema L r).run p = (.ok (), q)) :
    let o := m.readiness r q.database
    ∃ q', (m.run L r).run p = (o.result, q') ∧ q'.database = o.database ∧
      q'.report = q.report ∧ q'.stage ≠ .execute ∧
      notesOf q'.trace = notesOf q.trace ++ o.notes := by
  rw [run_run, h]
  intro o
  simp only []
  rcases ho : o.result with e | ⟨⟩
  · exact ⟨_, rfl, rfl, rfl, by simp [Progress.through], by simp [o]⟩
  · exact ⟨_, rfl, rfl, rfl, by simp, by simp [o]⟩

end Path

/-! ## Runs as a whole -/

/-- The progress with which a run begins. -/
def begun (database : σ) : Progress σ ν :=
  { database, stage := .execute, report := .start, trace := [] }

/-- A run came to its end, and nobody had to handle a failure. -/
def Finished.Completed (f : Finished σ ν) : Prop :=
  ∃ x, f.result = .ok x ∧ x.halted = false

section Execute

variable {m L r} {s : σ} {p : Progress σ ν}

theorem execute_of_stage (hm : m.stage ≠ .init) :
    m.execute L r s = m.refused r s (.alreadyRun m.stage) := if_pos hm

theorem reExecute_of_stage (hm : m.stage ≠ .done) :
    m.reExecute L r s = m.refused r s (.notDone m.stage) := if_pos hm

theorem reExecute_of_done (hm : m.stage = .done) :
    m.reExecute L r s = execute { m with stage := .init, rerunning := true } L r s :=
  if_neg (not_not_intro hm)

theorem not_completed_refused (f : StateFault) : ¬(m.refused r s f).Completed := by
  rintro ⟨x, reported, -⟩
  cases reported

theorem execute_of_ok (hm : m.stage = .init) (h : (m.run L r.lock).run (begun s) = (.ok (), p)) :
    m.execute L r s =
      { migrations := { m with stage := p.stage }, registry := r.lock, database := p.database
        trace := p.trace, result := .ok p.report } := by
  unfold begun at h
  simp [execute, hm, h]

theorem execute_of_error (hm : m.stage = .init) {e : Failure}
    (h : (m.run L r.lock).run (begun s) = (.error e, p)) :
    m.execute L r s =
      { migrations := { m with stage := p.stage }, registry := r.lock, database := p.database
        trace := p.trace ++ if m.handled then [.handled e] else []
        result := if m.handled then .ok { p.report with halted := true } else .error e } := by
  unfold begun at h
  simp only [execute, hm, h]
  cases m.handled <;> simp

/-- What is left of a run once it is finished.  Its report says at most that it was halted. -/
theorem execute_of_run (hm : m.stage = .init) {result : Except Failure Unit}
    (h : (m.run L r.lock).run (begun s) = (result, p)) :
    (m.execute L r s).database = p.database ∧
      (m.execute L r s).migrations.stage = p.stage ∧
      notesOf (m.execute L r s).trace = notesOf p.trace ∧
      (∀ x, (m.execute L r s).result = .ok x → x = { p.report with halted := x.halted }) ∧
      ((m.execute L r s).Completed → result = .ok ()) := by
  rcases result with e | ⟨⟩
  · rw [execute_of_error hm h]
    cases m.handled
    · exact ⟨rfl, rfl, by simp, by simp, fun ⟨x, failed, _⟩ => by simp at failed⟩
    · refine ⟨rfl, rfl, by simp [notesOf, TraceEntry.note?], fun x halted => ?_,
        fun ⟨x, halted, completed⟩ => ?_⟩ <;> simp at halted <;> subst halted
      · rfl
      · cases completed
  · rw [execute_of_ok hm h]
    refine ⟨rfl, rfl, rfl, fun x reported => ?_, fun _ => rfl⟩
    cases reported
    rfl

/-- A run that is still in its first stage has failed on its path. -/
theorem exists_error_of_stage (hm : m.stage = .init)
    (h : (m.execute L r s).migrations.stage = .execute) :
    ∃ e q, (m.runSchema L r.lock).run (begun s) = (.error e, q) ∧
      (m.execute L r s).database = q.database ∧ ¬(m.execute L r s).Completed := by
  rcases schema : (m.runSchema L r.lock).run (begun s) with ⟨e | ⟨⟩, q⟩
  · obtain ⟨database, -, -, -, completed⟩ := execute_of_run hm (run_of_schema_error schema)
    exact ⟨e, q, rfl, database, fun h => by cases completed h⟩
  · obtain ⟨p, run, -, -, stage, -⟩ := run_of_schema_ok schema
    obtain ⟨-, left, -⟩ := execute_of_run hm run
    exact absurd (left.symm.trans h) stage

/-- A run stays in its first stage exactly when it fails on its path. -/
theorem stage_execute_iff (hm : m.stage = .init) :
    (m.execute L r s).migrations.stage = .execute ↔
      ((m.runSchema L r.lock).run (begun s)).1 ≠ .ok () := by
  refine ⟨fun h => ?_, fun h => ?_⟩
  · obtain ⟨e, q, schema, -⟩ := exists_error_of_stage hm h
    rw [schema]
    exact fun succeeded => by cases succeeded
  · have stays := (unchanged_of_runSchema m L r.lock (begun s)).1
    rcases schema : (m.runSchema L r.lock).run (begun s) with ⟨e | ⟨⟩, q⟩
    · rw [schema] at stays
      exact (execute_of_run hm (run_of_schema_error schema)).2.1.trans stays
    · rw [schema] at h
      exact absurd rfl h

end Execute

end Migrations

end FilterStore
