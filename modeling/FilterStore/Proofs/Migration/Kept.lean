import FilterStore.Proofs.Migration.History

/-!
# What is kept before anything waits

Ready functions wait for the schema.  A run comes to them when all that it had to do to the schema
is done and kept: where nothing is recorded, one transaction with all init functions; where a
version is recorded, one transaction for each update function above it (`Migrations.Commits`).  If
any of that fails, no ready function is called (`Attempt.Accepted.ends`).

Behind that, a run comes to its end exactly when the ready functions succeed as well.  So whether it
has come to its end can be said in two ways: by what it reports, and by the functions that were
called with what was kept of them (`Attempt.Accepted.completed_iff`).
-/

namespace FilterStore

/-! ## Transactions that are kept -/

namespace Ledger

variable {σ ν : Type} (L : Ledger σ) (r : Registry)

/-- A transaction is begun, what is done in it succeeds, and it is kept. -/
def Keeps (f : Deed σ ν) (s t : σ) : Prop :=
  ∃ s', L.bounds.begin.run s = (.ok (), s') ∧ (f s').result = .ok () ∧
    L.bounds.commit.run (f s').database = (.ok (), t)

/-- Update functions succeed one after the other, and each of them is kept together with the record
of its version. -/
def KeepsEach : List (Int64 × SchemaFunction σ ν) → σ → σ → Prop
  | [], s, t => s = t
  | u :: us, s, t => ∃ s',
      L.Keeps (Deed.andThen (u.2 r (some u.1)) (Deed.ofWork (L.append u.1))) s s' ∧
        KeepsEach us s' t

variable {L r} {f : Deed σ ν} {us : List (Int64 × SchemaFunction σ ν)} {s t : σ}

theorem keeps_iff :
    L.Keeps f s t ↔ (f.whole L.bounds s).result = .ok () ∧ (f.whole L.bounds s).database = t := by
  constructor
  · rintro ⟨s', begun, succeeded, kept⟩
    have whole : (f.andThen (Deed.ofWork L.bounds.commit) s').result = .ok () :=
      Deed.result_andThen_eq_ok_iff.mpr ⟨succeeded, congrArg Prod.fst kept⟩
    simp only [Deed.whole, begun, whole]
    rw [Deed.andThen_of_ok succeeded]
    exact ⟨trivial, congrArg Prod.snd kept⟩
  · rintro ⟨succeeded, rfl⟩
    obtain ⟨s', t, begun, inside, kept, whole⟩ := Deed.exists_of_whole_ok succeeded
    exact ⟨s', begun, inside, by rw [whole]; exact kept⟩

theorem keepsEach_iff : L.KeepsEach r us s t ↔ L.Leads r s us ∧ L.lead r s us = t := by
  induction us generalizing s with
  | nil => exact ⟨fun same => ⟨trivial, same⟩, fun h => h.2⟩
  | cons u us ih =>
    constructor
    · rintro ⟨s', first, others⟩
      obtain ⟨succeeded, rfl⟩ := keeps_iff.mp first
      exact ⟨⟨succeeded, (ih.mp others).1⟩, (ih.mp others).2⟩
    · rintro ⟨⟨succeeded, others⟩, there⟩
      exact ⟨_, keeps_iff.mpr ⟨succeeded, rfl⟩, ih.mpr ⟨others, there⟩⟩

end Ledger

/-! ## The schema -/

/-- What watched deeds note when all of them succeed, and only then. -/
theorem Deed.notes_all_watched {σ ν : Type} {kind : FunctionKind} {version : Option Int64}
    (fs : List (Deed σ ν)) (s : σ) :
    (all (fs.map (watched kind version)) s).notes =
        fs.map (fun _ => { kind, version, result := .ok () }) ↔
      (all (fs.map (watched kind version)) s).result = .ok () := by
  induction fs generalizing s with
  | nil => exact ⟨fun _ => rfl, fun _ => rfl⟩
  | cons f fs ih =>
    show ((watched kind version f).andThen (all (fs.map (watched kind version))) s).notes = _ ↔
      ((watched kind version f).andThen (all (fs.map (watched kind version))) s).result = _
    rcases h : (f s).result with e | ⟨⟩
    · have failed : (watched kind version f s).result = .error e := h
      rw [andThen_of_error failed, failed]
      simp [watched, h]
    · have succeeded : (watched kind version f s).result = .ok () := h
      rw [andThen_of_ok succeeded]
      simpa [watched, h] using ih (f s).database

namespace Migrations

variable {σ ν : Type}

section Commits

variable (m : Migrations σ ν) (L : Ledger σ) (r : Registry)

/-- What the init path does in its transaction. -/
def founding : Deed σ ν :=
  (Deed.ofWork L.create).andThen
    ((Deed.all (m.inits.map fun f => f r none)).andThen (Deed.ofWork (L.append m.latest)))

/-- All that is to be done to the schema of a database is done and kept. -/
def Commits : Recorded → σ → σ → Prop
  | .missing, s, t => L.Keeps (m.founding L r) s t
  | .unusable, s, t => ∃ s', L.drop.run s = (.ok (), s') ∧ L.Keeps (m.founding L r) s' t
  | .version v, s, t => L.KeepsEach r (m.pending v) s t

/-- The calls with which that is done. -/
def due : Recorded → List Call
  | .missing | .unusable =>
    m.inits.map fun _ => { kind := .init, version := none, result := .ok () }
  | .version v => (m.pending v).map calledUpdate

end Commits

variable {m : Migrations σ ν} {L : Ledger σ} {r : Registry} {s t : σ}

section Schema

/-- The loop through update functions comes to its end when each of them is kept. -/
theorem runUpdates_eq_ok_iff (total : Nat) (us : List (Int64 × SchemaFunction σ ν))
    (p : Progress σ ν) :
    (((us.forM (m.runUpdate L r total)).run p).1 = .ok () ∧
        ((us.forM (m.runUpdate L r total)).run p).2.database = t) ↔
      L.KeepsEach r us p.database t := by
  induction us generalizing p with
  | nil => exact and_iff_right rfl
  | cons u us ih =>
    rcases h : (L.update r u p.database).result with e | ⟨⟩
    · rw [run_updates_of_error m L r total us h]
      constructor
      · rintro ⟨ended, -⟩
        cases ended
      · rintro ⟨s', first, -⟩
        cases h.symm.trans (Ledger.keeps_iff.mp first).1
    · have first : L.Leads r p.database [u] := ⟨h, trivial⟩
      have step := m.run_updates_append L r total first us
      rw [List.singleton_append] at step
      rw [step]
      refine (ih _).trans ⟨fun others => ⟨_, Ledger.keeps_iff.mpr ⟨h, rfl⟩, others⟩, ?_⟩
      rintro ⟨s', first, others⟩
      obtain ⟨-, rfl⟩ := Ledger.keeps_iff.mp first
      exact others

/-- The path of a run is behind exactly when all that was to be done is done and kept. -/
theorem runSchema_eq_ok_iff {x : Recorded} {p : Progress σ ν}
    (hx : L.recorded p.database = .ok x) :
    (((m.runSchema L r).run p).1 = .ok () ∧ ((m.runSchema L r).run p).2.database = t) ↔
      m.Commits L r x p.database t := by
  have inits : ∀ q : Progress σ ν, (((m.runInits L r).run q).1 = .ok () ∧
      ((m.runInits L r).run q).2.database = t) ↔ L.Keeps (m.founding L r) q.database t := by
    intro q
    obtain ⟨result, database, -⟩ := outcome_of_runInits m L r q
    rw [result, database, Ledger.keeps_iff]
    rfl
  cases x with
  | missing =>
    rw [run_runSchema_missing hx]
    exact inits p
  | unusable =>
    rw [run_runSchema_unusable hx]
    rcases dropped : L.drop.run p.database with ⟨e | ⟨⟩, s'⟩
    · simp only [Deed.ofWork, dropped]
      constructor
      · rintro ⟨ended, -⟩
        cases ended
      · rintro ⟨s', ended, -⟩
        cases dropped.symm.trans ended
    · simp only [Deed.ofWork, dropped]
      refine (inits _).trans ⟨fun kept => ⟨s', dropped, kept⟩, ?_⟩
      rintro ⟨s', ended, kept⟩
      cases dropped.symm.trans ended
      exact kept
  | version v =>
    rw [run_runSchema_version hx]
    exact runUpdates_eq_ok_iff _ _ (m.departed v p)

end Schema

/-! ## Calls before anything waits -/

section Calls

/-- Watching does not change where a path leads. -/
theorem runSchema_watched (m : Migrations σ ν) (L : Ledger σ) (r : Registry) (s : σ) :
    ((m.watched.runSchema L r).run (begun s)).1 = ((m.runSchema L r).run (begun s)).1 ∧
      ((m.watched.runSchema L r).run (begun s)).2.database =
        ((m.runSchema L r).run (begun s)).2.database := by
  have same : hushed ((m.watched.runSchema L r).run (begun s)) =
      hushed ((m.runSchema L r).run (begun s)) := by
    rw [silent_runSchema, silent_runSchema, silent_watched]
    rfl
  exact ⟨congrArg Prod.fst same, congrArg (·.2.database) same⟩

/-- An init path that is kept has called all init functions. -/
theorem notes_creation_watched (h : (m.watched.creation L r s).result = .ok ()) :
    (m.watched.creation L r s).notes = m.due .missing := by
  have watched : m.watched.inits.map (fun f => f r none) =
      (m.inits.map fun f => f r none).map (Deed.watched .init none) := by
    simp only [Migrations.watched, List.map_map]
    rfl
  obtain ⟨s', t, -, inside, -, whole⟩ := Deed.exists_of_whole_ok h
  obtain ⟨created, rest⟩ := Deed.result_andThen_eq_ok_iff.mp inside
  have called := (Deed.result_andThen_eq_ok_iff.mp rest).1
  refine (congrArg Outcome.notes whole).trans ?_
  rw [Deed.andThen_of_ok created]
  refine (List.nil_append _).trans ((Deed.notes_andThen_ofWork ..).trans ?_)
  rw [watched] at called ⊢
  rw [(Deed.notes_all_watched _ _).mpr called, List.map_map]
  rfl

/-- A path that is behind has called the functions that were due. -/
theorem notes_runSchema_watched {x : Recorded} (hx : L.recorded s = .ok x)
    (h : ((m.watched.runSchema L r).run (begun s)).1 = .ok ()) :
    notesOf ((m.watched.runSchema L r).run (begun s)).2.trace = m.due x := by
  have inits : ∀ p : Progress σ Call, ((m.watched.runInits L r).run p).1 = .ok () →
      notesOf p.trace = [] →
      notesOf ((m.watched.runInits L r).run p).2.trace = m.due .missing := by
    intro p succeeded silent
    obtain ⟨result, -, notes⟩ := outcome_of_runInits m.watched L r p
    rw [notes, silent, List.nil_append]
    exact notes_creation_watched (result.symm.trans succeeded)
  cases x with
  | missing =>
    rw [run_runSchema_missing (p := begun s) hx] at h ⊢
    exact inits _ h rfl
  | unusable =>
    rw [run_runSchema_unusable (p := begun s) hx] at h ⊢
    simp only [] at h ⊢
    rcases dropped : (Deed.ofWork L.drop (begun s : Progress σ Call).database :
        Outcome σ Call).result with e | ⟨⟩
    · rw [dropped] at h
      cases h
    · rw [dropped] at h
      exact inits _ h (notesOf_through ..)
  | version v =>
    have kept := (runSchema_eq_ok_iff (m := m) (p := begun s) hx).mp
      ⟨(runSchema_watched m L r s).1.symm.trans h, rfl⟩
    have leads : L.Leads r s (m.pending v) := (Ledger.keepsEach_iff.mp kept).1
    have watched : L.Leads r s (m.watched.pending v) := by
      rw [pending_watched]
      exact (leads_watched leads).1
    rw [run_runSchema_of_leads (m := m.watched) (p := begun s) hx watched]
    have noted := notes_behind_watched (m := m) (v := v) leads
    rw [← pending_watched] at noted
    exact noted

theorem kind_of_runUpdates_watched (total : Nat) (us : List (Int64 × SchemaFunction σ ν))
    {p : Progress σ Call} (h : ∀ c ∈ notesOf p.trace, c.kind ≠ .ready) :
    ∀ c ∈ notesOf (((us.map watchedUpdate).forM (m.watched.runUpdate L r total)).run p).2.trace,
      c.kind ≠ .ready := by
  induction us generalizing p with
  | nil => exact h
  | cons u us ih =>
    have called : ∀ c ∈ notesOf p.trace ++ (L.update r (watchedUpdate u) p.database).notes,
        c.kind ≠ .ready := by
      intro c hc
      rcases List.mem_append.mp hc with before | now
      · exact h c before
      · rcases notes_update_watched L r u p.database with none | ⟨result, one⟩
        · rw [none] at now
          cases now
        · rw [one] at now
          obtain rfl := List.mem_singleton.mp now
          exact nofun
    rw [List.map_cons]
    rcases hu : (L.update r (watchedUpdate u) p.database).result with e | ⟨⟩
    · rw [run_updates_of_error m.watched L r total _ hu, notesOf_through]
      exact called
    · have first : L.Leads r p.database [watchedUpdate u] := ⟨hu, trivial⟩
      have step := m.watched.run_updates_append L r total first (us.map watchedUpdate)
      rw [List.singleton_append] at step
      rw [step]
      exact ih (by simpa [advance] using called)

/-- No ready function is called on the path. -/
theorem kind_of_runSchema_watched (m : Migrations σ ν) (L : Ledger σ) (r : Registry) (s : σ) :
    ∀ c ∈ notesOf ((m.watched.runSchema L r).run (begun s)).2.trace, c.kind ≠ .ready := by
  have inits : ∀ p : Progress σ Call, notesOf p.trace = [] →
      ∀ c ∈ notesOf ((m.watched.runInits L r).run p).2.trace, c.kind ≠ .ready := by
    intro p silent c hc ready
    obtain ⟨-, -, notes⟩ := outcome_of_runInits m.watched L r p
    rw [notes, silent, List.nil_append] at hc
    cases (notesOnly_creation m L r _ c hc).1.symm.trans ready
  rcases hx : L.recorded s with e | x
  · rw [run_runSchema_error (p := begun s) hx]
    exact fun c hc => nomatch hc
  cases x with
  | missing =>
    rw [run_runSchema_missing (p := begun s) hx]
    exact inits _ rfl
  | unusable =>
    rw [run_runSchema_unusable (p := begun s) hx]
    simp only []
    rcases (Deed.ofWork L.drop (begun s : Progress σ Call).database :
        Outcome σ Call).result with e | ⟨⟩
    · exact fun c hc => nomatch hc
    · exact inits _ (notesOf_through ..)
  | version v =>
    rw [run_runSchema_version (p := begun s) hx, pending_watched]
    refine kind_of_runUpdates_watched _ _ fun c hc => ?_
    have departed : notesOf (m.watched.departed v (begun s)).trace = [] := notesOf_told ..
    rw [departed] at hc
    cases hc

end Calls

/-! ## How a run ends -/

section Ending

/-- The ready functions that are to run. -/
def awaited (m : Migrations σ ν) (r : Registry) : List (Deed σ ν) :=
  if m.callsReady then m.readies.map fun f => f r else []

theorem readiness_eq_all : m.readiness r = Deed.all (m.awaited r) := by
  unfold readiness awaited
  split <;> rfl

theorem awaited_watched :
    m.watched.awaited r = (m.awaited r).map (Deed.watched .ready none) := by
  show (if m.callsReady then _ else _) = _
  unfold awaited
  split
  · simp only [watched, List.map_map]
    rfl
  · rfl

/-- Watched ready functions note that all of them succeed, if they do. -/
theorem notes_readiness_watched :
    (m.watched.readiness r t).notes =
        (m.awaited r).map (fun _ => { kind := .ready, version := none, result := .ok () }) ↔
      (m.readiness r t).result = .ok () := by
  have same : (m.watched.readiness r).silent = (m.readiness r).silent := by
    rw [silent_readiness, silent_readiness, silent_watched]
  have result : (m.watched.readiness r t).result = (m.readiness r t).result :=
    congrArg Outcome.result (congrFun same t)
  rw [← result, readiness_eq_all, awaited_watched]
  exact Deed.notes_all_watched _ _

/-- Behind its path a run ends as the ready functions do. -/
theorem execute_of_path (hm : m.stage = .init) {q : Progress σ ν}
    (h : (m.runSchema L r.lock).run (begun s) = (.ok (), q)) :
    let o := m.readiness r.lock q.database
    (m.execute L r s).database = o.database ∧
      notesOf (m.execute L r s).trace = notesOf q.trace ++ o.notes ∧
      (o.result = .ok () →
        (m.execute L r s).migrations.stage = .done ∧ (m.execute L r s).Completed) ∧
      (o.result ≠ .ok () →
        (m.execute L r s).migrations.stage = .ready ∧ ¬(m.execute L r s).Completed) := by
  have run := m.run_run L r.lock (begun s)
  have started := (unchanged_of_runSchema m L r.lock (begun s)).2
  rw [h] at run started
  simp only [] at run
  intro o
  rcases ho : o.result with e | ⟨⟩
  · rw [ho] at run
    obtain ⟨database, stage, notes, -, completed⟩ := execute_of_run hm run
    refine ⟨database, by simpa using notes, nofun, fun _ => ⟨stage, fun ended => ?_⟩⟩
    cases completed ended
  · rw [ho] at run
    obtain ⟨database, stage, notes, -, -⟩ := execute_of_run hm run
    refine ⟨database, by simpa using notes, fun _ => ⟨stage, ?_⟩, fun failed => absurd rfl failed⟩
    rw [execute_of_ok hm run]
    exact ⟨_, rfl, started⟩

/-- How a run ends.  Either it stops on its path, of which then not everything is kept, or the path
is behind and it ends as the ready functions do. -/
inductive Ends (m : Migrations σ ν) (L : Ledger σ) (r : Registry) (s : σ) : Prop
  | onPath (stage : (m.execute L r s).migrations.stage = .execute)
      (failed : ¬(m.execute L r s).Completed) (calls : ∀ c ∈ m.calls L r s, c.kind ≠ .ready)
      (unkept : ∀ x t, L.recorded s = .ok x → ¬m.Commits L r.lock x s t)
  | behind (x : Recorded) (t : σ) (recorded : L.recorded s = .ok x)
      (commits : m.Commits L r.lock x s t) (waiting : List Call)
      (calls : m.calls L r s = m.due x ++ waiting) (kind : ∀ c ∈ waiting, c.kind = .ready)
      (database : (m.execute L r s).database = (Deed.all (m.awaited r.lock) t).database)
      (stage : (m.execute L r s).migrations.stage = .ready ∨
        (m.execute L r s).migrations.stage = .done)
      (ended : (m.execute L r s).migrations.stage = .done ↔ (m.execute L r s).Completed)
      (called : (m.execute L r s).Completed ↔
        waiting = (m.awaited r.lock).map
          fun _ => { kind := .ready, version := none, result := .ok () })

theorem execute_ends (hm : m.stage = .init) (L : Ledger σ) (r : Registry) (s : σ) :
    m.Ends L r s := by
  obtain ⟨result, database⟩ := runSchema_watched m L r.lock s
  have kinds := kind_of_runSchema_watched m L r.lock s
  rcases path : (m.runSchema L r.lock).run (begun s) with ⟨e | ⟨⟩, q⟩
  · rcases watched : (m.watched.runSchema L r.lock).run (begun s) with ⟨e' | ⟨⟩, q'⟩
    · obtain ⟨-, -, notes, -, -⟩ :=
        execute_of_run (m := m.watched) hm (run_of_schema_error watched)
      refine .onPath ((stage_execute_iff hm).mpr (by rw [path]; exact nofun)) ?_ ?_ ?_
      · exact fun ended => by cases (execute_of_run hm (run_of_schema_error path)).2.2.2.2 ended
      · have calls : m.calls L r s = notesOf q'.trace := notes
        rw [watched] at kinds
        rw [calls]
        exact kinds
      · intro x t hx kept
        have behind := ((runSchema_eq_ok_iff (p := begun s) hx).mpr kept).1
        rw [path] at behind
        cases behind
    · rw [watched, path] at result
      cases result
  · rcases watched : (m.watched.runSchema L r.lock).run (begun s) with ⟨e' | ⟨⟩, q'⟩
    · rw [watched, path] at result
      cases result
    rcases hx : L.recorded s with e | x
    · rw [run_runSchema_error (p := begun s) hx] at path
      cases path
    have kept := (runSchema_eq_ok_iff (m := m) (p := begun s) hx).mp
      ⟨congrArg Prod.fst path, rfl⟩
    have due := notes_runSchema_watched (m := m) hx (congrArg Prod.fst watched)
    obtain ⟨left, -, succeeded, failed⟩ := execute_of_path hm path
    obtain ⟨-, calls, -, -⟩ := execute_of_path (m := m.watched) hm watched
    rw [watched, path] at database
    rw [watched] at due
    simp only [] at database due
    rw [path] at kept
    rw [due, database] at calls
    have called := notes_readiness_watched (m := m) (r := r.lock) (t := q.database)
    rw [readiness_eq_all] at left
    refine .behind x q.database hx kept _ calls
      (fun c hc => (m.notesOnly_readiness r.lock _ c hc).1) left ?_ ?_ ?_
    all_goals by_cases ready : (m.readiness r.lock q.database).result = .ok ()
    · exact .inr (succeeded ready).1
    · exact .inl (failed ready).1
    · exact iff_of_true (succeeded ready).1 (succeeded ready).2
    · refine iff_of_false (fun stage => ?_) (failed ready).2
      cases (failed ready).1.symm.trans stage
    · exact iff_of_true (succeeded ready).2 (called.mpr ready)
    · exact iff_of_false (failed ready).2 fun all => ready (called.mp all)

end Ending

end Migrations

/-! ## What an attempt comes to -/

namespace Attempt

variable {σ ν : Type}

/-- The ready functions that a run has to call.  When it is made again, it calls them only if the
settings ask for that. -/
def awaited (a : Attempt σ ν) : List (Deed σ ν) :=
  if a.again ∧ a.migrations.settings.readyOnRerun = false then []
  else a.migrations.readies.map fun f => f a.registry.lock

/-- All that a run had to do to the schema is done and kept, and led to some database.  The calls
for that are made, and the ready functions, called after them, have gone on from that database. -/
structure Settles (L : Ledger σ) (a : Attempt σ ν) (s : σ) (x : Recorded) (t : σ) : Prop where
  recorded : L.recorded s = .ok x
  commits : a.migrations.Commits L a.registry.lock x s t
  calls : ∃ waiting, a.calls L s = a.migrations.due x ++ waiting ∧ ∀ c ∈ waiting, c.kind = .ready
  database : (a.finish L s).database = (Deed.all a.awaited t).database

/-- A run has come to its end: the schema is settled, and all ready functions that it had to call
were called and succeeded. -/
def RunsThrough (L : Ledger σ) (a : Attempt σ ν) (s : σ) : Prop :=
  ∃ x t, a.Settles L s x t ∧
    a.calls L s = a.migrations.due x ++
      a.awaited.map fun _ => { kind := .ready, version := none, result := .ok () }

section Accepted

variable {L : Ledger σ} {a : Attempt σ ν} {s : σ}

theorem awaited_eq (first : a.again = false → a.migrations.rerunning = false) :
    a.awaited = a.opened.awaited a.registry.lock := by
  obtain ⟨m, r, again⟩ := a
  cases again
  · have fresh : m.rerunning = false := first rfl
    simp [awaited, opened, Migrations.awaited, Migrations.callsReady, fresh]
  · simp only [awaited, opened, Migrations.awaited, Migrations.callsReady, true_and, if_true]
    cases m.settings.readyOnRerun <;> rfl

theorem commits_opened (a : Attempt σ ν) {r : Registry} {x : Recorded} {t : σ} :
    a.opened.Commits L r x s t ↔ a.migrations.Commits L r x s t := by
  unfold opened
  split <;> cases x <;> exact Iff.rfl

theorem due_opened (a : Attempt σ ν) (x : Recorded) : a.opened.due x = a.migrations.due x := by
  unfold opened
  split <;> cases x <;> rfl

/-- A run does not stay in the stage in which functions are registered, and it is done when it has
come to its end. -/
theorem Accepted.stage_finish (ha : a.Accepted) (L : Ledger σ) (s : σ) :
    (a.finish L s).migrations.stage ≠ .init ∧
      ((a.finish L s).migrations.stage = .done ↔ (a.finish L s).Completed) := by
  rw [ha.finish_eq]
  cases Migrations.execute_ends ha.stage_opened L a.registry s with
  | onPath stage failed =>
    rw [stage]
    exact ⟨nofun, fun ended => (nomatch ended), fun ended => absurd ended failed⟩
  | behind x t recorded commits waiting calls kind database stage ended =>
    refine ⟨?_, ended⟩
    rcases stage with ready | done
    · rw [ready]
      exact nofun
    · rw [done]
      exact nofun

/-- How an accepted run ends: on its path, or behind it. -/
theorem Accepted.ends (ha : a.Accepted) (first : a.again = false → a.migrations.rerunning = false)
    (L : Ledger σ) (s : σ) :
    (¬(a.finish L s).Completed ∧ (∀ c ∈ a.calls L s, c.kind ≠ .ready) ∧
        ∀ x t, ¬a.Settles L s x t) ∨
      ∃ x t, a.Settles L s x t ∧ ((a.finish L s).Completed ↔
        a.calls L s = a.migrations.due x ++
          a.awaited.map fun _ => { kind := .ready, version := none, result := .ok () }) := by
  have finish := ha.finish_eq L s
  have calls := ha.calls_eq L s
  cases Migrations.execute_ends ha.stage_opened L a.registry s with
  | onPath _ failed kinds unkept =>
    refine .inl ⟨finish ▸ failed, calls ▸ kinds, fun x t settled => ?_⟩
    exact unkept x t settled.recorded (a.commits_opened.mpr settled.commits)
  | behind x t recorded commits waiting made kind database _ _ called =>
    rw [due_opened] at made
    refine .inr ⟨x, t, ⟨recorded, a.commits_opened.mp commits, ⟨waiting, calls.trans made, kind⟩,
      ?_⟩, ?_⟩
    · rw [finish, awaited_eq first]
      exact database
    · rw [finish, calls, made, awaited_eq first, List.append_cancel_left_eq]
      exact called

/-- A run that calls a ready function has settled the schema. -/
theorem Accepted.exists_settles (ha : a.Accepted)
    (first : a.again = false → a.migrations.rerunning = false) {c : Call} (hc : c ∈ a.calls L s)
    (ready : c.kind = .ready) : ∃ x t, a.Settles L s x t := by
  rcases ha.ends first L s with ⟨-, kinds, -⟩ | ⟨x, t, settled, -⟩
  · exact absurd ready (kinds c hc)
  · exact ⟨x, t, settled⟩

/-- What a run reports agrees with what it has called and kept. -/
theorem Accepted.completed_iff (ha : a.Accepted)
    (first : a.again = false → a.migrations.rerunning = false) :
    (a.finish L s).Completed ↔ a.RunsThrough L s := by
  rcases ha.ends first L s with ⟨failed, -, unsettled⟩ | ⟨x, t, settled, called⟩
  · exact ⟨fun ended => absurd ended failed,
      fun ⟨x, t, settled, _⟩ => absurd settled (unsettled x t)⟩
  · refine ⟨fun ended => ⟨x, t, settled, called.mp ended⟩, fun ⟨x', t', settled', all⟩ => ?_⟩
    obtain rfl := Except.ok.inj (settled.recorded.symm.trans settled'.recorded)
    exact called.mpr all

end Accepted

end Attempt

end FilterStore
