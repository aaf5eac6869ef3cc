import FilterStore.Proofs.Migration.Course

/-!
# Which functions a run calls

The functions of migrations note what they like.  To see which of them a run calls, and with what
success, they are *watched*: each notes its call and nothing else.  The notes of a run with watched
functions are the calls it makes.

What functions note has no effect on anything else.  To say so, functions are *silenced*: they do
what they do, but note nothing.  Silencing goes through every step of a run
(`Migrations.silent_execute`), and watched functions are the same as the others once they are
silenced.  So the calls of a run with watched functions are those of the run as it is
(`Migrations.execute_watched`).
-/

namespace FilterStore

/-! ## Silence -/

section Silence

variable {σ ν : Type}

/-- An outcome without its notes. -/
def Outcome.silent (o : Outcome σ ν) : Outcome σ Empty :=
  { database := o.database, notes := [], result := o.result }

/-- An entry that is no note. -/
def TraceEntry.silent? : TraceEntry ν → Option (TraceEntry Empty)
  | .event n e => some (.event n e)
  | .note _ => none
  | .handled f => some (.handled f)

/-- What a run leaves behind, without the notes. -/
def silentOf (trace : List (TraceEntry ν)) : List (TraceEntry Empty) :=
  trace.filterMap TraceEntry.silent?

/-- A run under way without its notes. -/
def Progress.silent (p : Progress σ ν) : Progress σ Empty :=
  { database := p.database, stage := p.stage, report := p.report, trace := silentOf p.trace }

/-- A deed that notes nothing. -/
def Deed.silent (f : Deed σ ν) : Deed σ Empty := fun s => (f s).silent

namespace Migrations

/-- Migrations whose functions note nothing. -/
def silent (m : Migrations σ ν) : Migrations σ Empty :=
  { m with
    inits := m.inits.map fun f r v => Deed.silent (f r v)
    updates := m.updates.map fun u => (u.1, fun r v => Deed.silent (u.2 r v))
    readies := m.readies.map fun f r => Deed.silent (f r) }

/-- A finished run without its notes. -/
def Finished.silent (f : Finished σ ν) : Finished σ Empty :=
  { migrations := f.migrations.silent, registry := f.registry, database := f.database
    trace := silentOf f.trace, result := f.result }

end Migrations

/-- Where a step of a run leads, without the notes. -/
def hushed (x : Except Failure Unit × Progress σ ν) : Except Failure Unit × Progress σ Empty :=
  (x.1, x.2.silent)

@[simp] theorem silentOf_append (a b : List (TraceEntry ν)) :
    silentOf (a ++ b) = silentOf a ++ silentOf b := List.filterMap_append

@[simp] theorem silentOf_notes (ns : List ν) : silentOf (ns.map TraceEntry.note) = [] := by
  induction ns with
  | nil => rfl
  | cons n ns ih => exact ih

namespace Deed

theorem silent_andThen (f g : Deed σ ν) : (f.andThen g).silent = f.silent.andThen g.silent := by
  funext s
  rcases h : (f s).result with e | ⟨⟩
  · have unheard : (f.silent s).result = .error e := h
    rw [andThen_of_error unheard]
    exact congrArg Outcome.silent (andThen_of_error h)
  · have unheard : (f.silent s).result = .ok () := h
    rw [andThen_of_ok unheard]
    show (f.andThen g s).silent = (g (f s).database).silent
    rw [andThen_of_ok h]
    rfl

theorem silent_all (fs : List (Deed σ ν)) : (all fs).silent = all (fs.map silent) := by
  induction fs with
  | nil => rfl
  | cons f fs ih => exact (silent_andThen f (all fs)).trans (congrArg f.silent.andThen ih)

theorem silent_whole (b : Bounds Failure σ) (f : Deed σ ν) :
    (f.whole b).silent = f.silent.whole b := by
  have inside := silent_andThen f (ofWork b.commit)
  funext s
  rcases hb : b.begin.run s with ⟨e | ⟨⟩, s'⟩
  · simp only [silent, whole, hb]
    rfl
  · have here : (f.andThen (ofWork b.commit) s').silent =
        f.silent.andThen (ofWork b.commit) s' := congrFun inside s'
    simp only [silent, whole, hb]
    rw [← here]
    rcases f.andThen (ofWork b.commit) s' with ⟨t, notes, e | ⟨⟩⟩ <;> rfl

end Deed

theorem Progress.silent_through (p : Progress σ ν) (o : Outcome σ ν) :
    (p.through o).silent = p.silent.through o.silent := by
  simp [Progress.through, Progress.silent, Outcome.silent]

namespace Migrations

variable (m : Migrations σ ν) (L : Ledger σ) (r : Registry)

theorem silentOf_told (e : MigrationEvent) : silentOf (m.told e) = m.silent.told e := by
  show silentOf (if m.tellsEvents then _ else _) = if m.tellsEvents then _ else _
  split
  · show _ = m.listeners.map _
    induction m.listeners with
    | nil => rfl
    | cons n ns ih => exact congrArg (_ :: ·) ih
  · rfl

@[simp] theorem latest_silent : m.silent.latest = m.latest := by
  simp [latest, versions, silent, Function.comp_def]

@[simp] theorem pending_silent (v : Int64) :
    m.silent.pending v =
      (m.pending v).map fun u => (u.1, fun r v => Deed.silent (u.2 r v)) := by
  simp only [pending, silent, List.filter_map]
  rfl

theorem silent_update (u : Int64 × SchemaFunction σ ν) :
    (L.update r u).silent = L.update r (u.1, fun r v => Deed.silent (u.2 r v)) := by
  unfold Ledger.update
  rw [Deed.silent_whole, Deed.silent_andThen]
  rfl

theorem silent_creation : (m.creation L r).silent = m.silent.creation L r := by
  unfold creation
  rw [Deed.silent_whole, Deed.silent_andThen, Deed.silent_andThen, Deed.silent_all, latest_silent]
  simp only [silent, List.map_map]
  rfl

theorem silent_readiness : (m.readiness r).silent = m.silent.readiness r := by
  show _ = if m.callsReady then _ else _
  unfold readiness
  split
  · rw [Deed.silent_all]
    simp only [silent, List.map_map]
    rfl
  · rfl

theorem silent_advance (total : Nat) (p : Progress σ ν) (u : Int64 × SchemaFunction σ ν) :
    (m.advance L r total p u).silent =
      m.silent.advance L r total p.silent (u.1, fun r v => Deed.silent (u.2 r v)) := by
  unfold advance
  rw [← silent_update]
  simp [Progress.through, Progress.silent, silentOf_told, Deed.silent, Outcome.silent]

theorem silent_runUpdate (total : Nat) (u : Int64 × SchemaFunction σ ν) (p : Progress σ ν) :
    hushed ((m.runUpdate L r total u).run p) =
      (m.silent.runUpdate L r total (u.1, fun r v => Deed.silent (u.2 r v))).run p.silent := by
  have result : ((L.update r u).silent p.silent.database).result =
      (L.update r u p.database).result := rfl
  rw [run_runUpdate, run_runUpdate, ← silent_update, result]
  rcases (L.update r u p.database).result with e | ⟨⟩
  · exact congrArg (Prod.mk _) (p.silent_through _)
  · exact congrArg (Prod.mk _) (m.silent_advance L r total p u)

theorem silent_runUpdates (total : Nat) (us : List (Int64 × SchemaFunction σ ν))
    (p : Progress σ ν) :
    hushed ((us.forM (m.runUpdate L r total)).run p) =
      ((us.map fun u => (u.1, fun r v => Deed.silent (u.2 r v))).forM
        (m.silent.runUpdate L r total)).run p.silent := by
  induction us generalizing p with
  | nil => rfl
  | cons u us ih =>
    show hushed ((do m.runUpdate L r total u; us.forM (m.runUpdate L r total)).run p) =
      (do m.silent.runUpdate L r total _; List.forM _ (m.silent.runUpdate L r total)).run p.silent
    rw [run_bind, run_bind, ← silent_runUpdate]
    rcases (m.runUpdate L r total u).run p with ⟨e | ⟨⟩, q⟩
    · rfl
    · exact ih q

theorem silent_runInits (p : Progress σ ν) :
    hushed ((m.runInits L r).run p) = (m.silent.runInits L r).run p.silent := by
  have result : ((m.creation L r).silent p.silent.database).result =
      (m.creation L r p.database).result := rfl
  rw [run_runInits, run_runInits, ← silent_creation, result]
  rcases (m.creation L r p.database).result with e | ⟨⟩ <;>
    simp [hushed, Progress.through, Progress.silent, silentOf_told, Deed.silent, Outcome.silent]

theorem silent_runSchema (p : Progress σ ν) :
    hushed ((m.runSchema L r).run p) = (m.silent.runSchema L r).run p.silent := by
  rcases h : L.recorded p.database with e | recorded
  · rw [run_runSchema_error h, run_runSchema_error (p := p.silent) h]
    rfl
  cases recorded with
  | missing =>
    rw [run_runSchema_missing h, run_runSchema_missing (p := p.silent) h]
    exact m.silent_runInits L r p
  | unusable =>
    have through : (p.through (Deed.ofWork L.drop p.database)).silent =
        p.silent.through (Deed.ofWork L.drop p.silent.database) := p.silent_through _
    have result : (Deed.ofWork L.drop p.silent.database : Outcome σ Empty).result =
        (Deed.ofWork L.drop p.database : Outcome σ ν).result := rfl
    rw [run_runSchema_unusable h, run_runSchema_unusable (p := p.silent) h]
    simp only [result, ← through]
    rcases (Deed.ofWork L.drop p.database : Outcome σ ν).result with e | ⟨⟩
    · rfl
    · exact m.silent_runInits L r _
  | version v =>
    have departed : (m.departed v p).silent = m.silent.departed v p.silent := by
      simp [departed, Progress.silent, silentOf_told]
    rw [run_runSchema_version h, run_runSchema_version (p := p.silent) h, pending_silent,
      List.length_map, ← departed]
    exact m.silent_runUpdates L r _ _ _

theorem silent_run (p : Progress σ ν) :
    hushed ((m.run L r).run p) = (m.silent.run L r).run p.silent := by
  rw [run_run, run_run, ← silent_runSchema]
  rcases (m.runSchema L r).run p with ⟨e | ⟨⟩, q⟩
  · rfl
  have result : ((m.readiness r).silent q.silent.database).result =
      (m.readiness r q.database).result := rfl
  simp only [hushed, ← silent_readiness, result]
  rcases (m.readiness r q.database).result with e | ⟨⟩ <;>
    simp [Progress.through, Progress.silent, silentOf_told, Deed.silent, Outcome.silent]

/-- What functions note has no effect on anything else. -/
theorem silent_execute (s : σ) : (m.execute L r s).silent = m.silent.execute L r s := by
  by_cases hm : m.stage = .init
  · have run : hushed ((m.run L r.lock).run (begun s)) = (m.silent.run L r.lock).run (begun s) :=
      m.silent_run L r.lock (begun s)
    rcases h : (m.run L r.lock).run (begun s) with ⟨e | ⟨⟩, p⟩
    · rw [h] at run
      have handled : m.silent.handled = m.handled := rfl
      rw [execute_of_error hm h, execute_of_error (m := m.silent) hm run.symm, handled]
      cases m.handled <;>
        simp [Finished.silent, silentOf, TraceEntry.silent?, Progress.silent] <;> rfl
    · rw [h] at run
      rw [execute_of_ok hm h, execute_of_ok (m := m.silent) hm run.symm]
      rfl
  · rw [execute_of_stage hm, execute_of_stage (m := m.silent) hm]
    rfl

end Migrations

end Silence

/-! ## Watched functions -/

/-- A call of a function. -/
structure Call where
  kind : FunctionKind
  /-- The version that the function was told. -/
  version : Option Int64
  result : Except Failure Unit

section Watched

variable {σ ν : Type}

/-- A deed that notes its call and nothing else. -/
def Deed.watched (kind : FunctionKind) (version : Option Int64) (f : Deed σ ν) : Deed σ Call :=
  fun s =>
    { database := (f s).database
      notes := [{ kind, version, result := (f s).result }]
      result := (f s).result }

/-- An update function that notes its calls. -/
def watchedUpdate (u : Int64 × SchemaFunction σ ν) : Int64 × SchemaFunction σ Call :=
  (u.1, fun r v => Deed.watched .update v (u.2 r v))

namespace Deed

/-- All that a deed notes is of a kind. -/
def NotesOnly (P : ν → Prop) (f : Deed σ ν) : Prop := ∀ s, ∀ n ∈ (f s).notes, P n

variable {P : ν → Prop} {f g : Deed σ ν}

theorem notesOnly_ofWork (work : ExceptT Failure (StateM σ) Unit) :
    NotesOnly P (ofWork work) := fun _ _ hn => by cases hn

theorem notesOnly_andThen (hf : NotesOnly P f) (hg : NotesOnly P g) :
    NotesOnly P (f.andThen g) := by
  intro s n hn
  rcases h : (f s).result with e | ⟨⟩
  · rw [andThen_of_error h] at hn
    exact hf s n hn
  · rw [andThen_of_ok h] at hn
    exact (List.mem_append.mp hn).elim (hf s n) (hg _ n)

theorem notesOnly_all {fs : List (Deed σ ν)} (h : ∀ f ∈ fs, NotesOnly P f) :
    NotesOnly P (all fs) := by
  induction fs with
  | nil => exact fun _ _ hn => by cases hn
  | cons f fs ih =>
    exact notesOnly_andThen (h f List.mem_cons_self)
      (ih fun g hg => h g (List.mem_cons_of_mem f hg))

theorem notesOnly_whole (b : Bounds Failure σ) (hf : NotesOnly P f) : NotesOnly P (f.whole b) := by
  intro s n hn
  rcases begun : b.begin.run s with ⟨e | ⟨⟩, s'⟩
  · simp only [whole, begun] at hn
    cases hn
  · rw [notes_whole begun] at hn
    exact hf s' n hn

end Deed

namespace Migrations

/-- Migrations whose functions note their calls. -/
def watched (m : Migrations σ ν) : Migrations σ Call :=
  { m with
    inits := m.inits.map fun f r v => Deed.watched .init v (f r v)
    updates := m.updates.map watchedUpdate
    readies := m.readies.map fun f r => Deed.watched .ready none (f r) }

/-- The calls that a run makes, in order. -/
def calls (m : Migrations σ ν) (L : Ledger σ) (r : Registry) (s : σ) : List Call :=
  notesOf (m.watched.execute L r s).trace

theorem silent_watched (m : Migrations σ ν) : m.watched.silent = m.silent := by
  simp only [silent, watched, List.map_map]
  rfl

/-- A run does the same when its functions are watched. -/
theorem execute_watched (m : Migrations σ ν) (L : Ledger σ) (r : Registry) (s : σ) :
    (m.watched.execute L r s).silent = (m.execute L r s).silent := by
  rw [silent_execute, silent_execute, silent_watched]

theorem pending_watched (m : Migrations σ ν) (v : Int64) :
    m.watched.pending v = (m.pending v).map watchedUpdate := List.filter_map ..

theorem silent_update_watched (L : Ledger σ) (r : Registry) (u : Int64 × SchemaFunction σ ν) :
    (L.update r (watchedUpdate u)).silent = (L.update r u).silent := by
  rw [silent_update, silent_update]
  rfl

theorem update_watched (L : Ledger σ) (r : Registry) (u : Int64 × SchemaFunction σ ν) (s : σ) :
    (L.update r (watchedUpdate u) s).database = (L.update r u s).database ∧
      (L.update r (watchedUpdate u) s).result = (L.update r u s).result := by
  have same := congrFun (silent_update_watched L r u) s
  exact ⟨congrArg Outcome.database same, congrArg Outcome.result same⟩

/-- Only ready functions are called once the path is behind. -/
theorem notesOnly_readiness (m : Migrations σ ν) (r : Registry) :
    Deed.NotesOnly (fun c => c.kind = .ready ∧ c.version = none) (m.watched.readiness r) := by
  unfold readiness
  split
  · refine Deed.notesOnly_all fun f hf s c hc => ?_
    obtain ⟨g, hg, rfl⟩ := List.mem_map.mp hf
    obtain ⟨f, -, rfl⟩ := List.mem_map.mp hg
    obtain rfl := List.mem_singleton.mp hc
    exact ⟨rfl, rfl⟩
  · intro s c hc
    cases hc

/-- Only init functions are called on the init path. -/
theorem notesOnly_creation (m : Migrations σ ν) (L : Ledger σ) (r : Registry) :
    Deed.NotesOnly (fun c => c.kind = .init ∧ c.version = none) (m.watched.creation L r) := by
  refine Deed.notesOnly_whole _ (Deed.notesOnly_andThen (Deed.notesOnly_ofWork _)
    (Deed.notesOnly_andThen (Deed.notesOnly_all fun f hf s c hc => ?_) (Deed.notesOnly_ofWork _)))
  obtain ⟨g, hg, rfl⟩ := List.mem_map.mp hf
  obtain ⟨f, -, rfl⟩ := List.mem_map.mp hg
  obtain rfl := List.mem_singleton.mp hc
  exact ⟨rfl, rfl⟩

/-- The update function itself is all that is called in its transaction. -/
theorem notes_update_watched (L : Ledger σ) (r : Registry) (u : Int64 × SchemaFunction σ ν)
    (s : σ) : (L.update r (watchedUpdate u) s).notes = [] ∨
      ∃ result, (L.update r (watchedUpdate u) s).notes =
        [{ kind := .update, version := some u.1, result }] := by
  rcases begun : L.bounds.begin.run s with ⟨e | ⟨⟩, t⟩
  · simp [Ledger.update, Deed.whole, begun]
  · refine .inr ⟨(u.2 r (some u.1) t).result, ?_⟩
    rw [Ledger.update, Deed.notes_whole begun, Deed.notes_andThen_ofWork]
    rfl

end Migrations

end Watched

end FilterStore
