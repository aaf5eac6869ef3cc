import FilterStore.Proofs.Migration.Kept

/-!
# What listeners are told

While a run goes on, listeners are told that it has started and on which path, that a version is
committed, that the schema is ready and that all is done.  These events stand in the trace between
the notes of the functions, and a trace is gone through for them (`eventsOf`) as it is gone through
for notes.

What can be told at most is settled when the ledger has been looked at (`Migrations.announced`): the
path, on the update path one version after the other out of all that are pending, and the end.  A
run tells this in order and stops where it fails, so that all of it is told exactly in a run that
comes to its end (`Migrations.Tells`).  The argument follows the run.  What is told on the path is
settled by where the pending functions are cut (`Migrations.Told`), and behind the path there are
two events left.

Progress is told of a version whose function has succeeded in a transaction with its record.  If
functions leave the transaction and the ledger alone, these versions are those by which the ledger
has grown (`Migrations.Extends`).  It can also grow by versions of which nobody is told
(`Attempt.not_progress_of_recorded`).
-/

namespace FilterStore

open Engine (Connection)
open VersionTable (greatest running)

/-! ## Events among the entries of a trace -/

/-- The event an entry is, with the one who is told, if it is one. -/
def TraceEntry.event? {ν : Type} : TraceEntry ν → Option (Nat × MigrationEvent)
  | .event n e => some (n, e)
  | .note _ | .handled _ => none

/-- The version that is reported to be committed, if one is. -/
def MigrationEvent.version? : MigrationEvent → Option Int64
  | .progress v _ _ => some v
  | .started _ | .ready | .done => none

/-- The events by which so many versions out of a total are reported, counted from a first one. -/
def progressThrough (total first : Nat) (vs : List Int64) : List MigrationEvent :=
  (vs.zipIdx first).map fun x => .progress x.1 x.2 total

/-- The versions that some events report. -/
def versionsIn (es : List MigrationEvent) : List Int64 := es.filterMap MigrationEvent.version?

section Traces

variable {σ ν : Type}

/-- The events in a trace, each with the one who is told. -/
def eventsOf (trace : List (TraceEntry ν)) : List (Nat × MigrationEvent) :=
  trace.filterMap TraceEntry.event?

/-- The events that one listener is told. -/
def heardBy (n : Nat) (trace : List (TraceEntry ν)) : List MigrationEvent :=
  (eventsOf trace).filterMap fun x => if x.1 = n then some x.2 else none

@[simp] theorem eventsOf_append (a b : List (TraceEntry ν)) :
    eventsOf (a ++ b) = eventsOf a ++ eventsOf b := List.filterMap_append

@[simp] theorem eventsOf_notes (ns : List ν) : eventsOf (ns.map TraceEntry.note) = [] := by
  induction ns with
  | nil => rfl
  | cons n ns ih => exact ih

@[simp] theorem eventsOf_through (p : Progress σ ν) (o : Outcome σ ν) :
    eventsOf (p.through o).trace = eventsOf p.trace := by
  simp [Progress.through]

@[simp] theorem versionsIn_append (a b : List MigrationEvent) :
    versionsIn (a ++ b) = versionsIn a ++ versionsIn b := List.filterMap_append

@[simp] theorem versionsIn_progressThrough (total first : Nat) (vs : List Int64) :
    versionsIn (progressThrough total first vs) = vs := by
  induction vs generalizing first with
  | nil => rfl
  | cons v vs ih => exact congrArg (v :: ·) (ih (first + 1))

theorem progressThrough_append (total first : Nat) (vs ws : List Int64) :
    progressThrough total first (vs ++ ws) =
      progressThrough total first vs ++ progressThrough total (first + vs.length) ws := by
  rw [progressThrough, List.zipIdx_append, List.map_append]
  rfl

theorem started_not_mem_progressThrough {total first : Nat} {vs : List Int64} {p : Path} :
    .started p ∉ progressThrough total first vs := by
  intro told
  obtain ⟨x, -, clash⟩ := List.mem_map.mp told
  cases clash

end Traces

namespace Migrations

variable {σ ν : Type} (m : Migrations σ ν) (L : Ledger σ) (r : Registry)

/-- Events that everyone is told, one after the other, if anyone is told at all. -/
def spread (es : List MigrationEvent) : List (Nat × MigrationEvent) :=
  if m.tellsEvents then es.flatMap fun e => m.listeners.map fun n => (n, e) else []

@[simp] theorem spread_nil : m.spread [] = [] := by
  unfold spread
  split <;> rfl

@[simp] theorem spread_append (a b : List MigrationEvent) :
    m.spread (a ++ b) = m.spread a ++ m.spread b := by
  unfold spread
  split
  · exact List.flatMap_append
  · rfl

@[simp] theorem eventsOf_told (e : MigrationEvent) : eventsOf (m.told e) = m.spread [e] := by
  unfold told spread eventsOf
  split
  · rw [List.filterMap_map, List.flatMap_singleton]
    exact congrFun List.filterMap_eq_map m.listeners
  · rfl

/-- The events of the path that a run takes. -/
def route : Except Failure Recorded → List MigrationEvent
  | .error _ => []
  | .ok .missing | .ok .unusable => [.started .init]
  | .ok (.version v) =>
    .started .update :: progressThrough (m.pending v).length 1 ((m.pending v).map (·.1))

/-- The events of a run that comes to its end. -/
def announced (x : Recorded) : List MigrationEvent := m.route (.ok x) ++ [.ready, .done]

/-- Functions that succeed are reported one after the other. -/
theorem eventsOf_advance (total : Nat) (us : List (Int64 × SchemaFunction σ ν))
    (p : Progress σ ν) :
    eventsOf (us.foldl (m.advance L r total) p).trace = eventsOf p.trace ++
      m.spread (progressThrough total (p.report.applied.length + 1) (us.map (·.1))) := by
  induction us generalizing p with
  | nil =>
    have none : m.spread (progressThrough total (p.report.applied.length + 1) []) = [] :=
      m.spread_nil
    rw [List.map_nil, none, List.append_nil, List.foldl_nil]
  | cons u us ih =>
    have first : progressThrough total (p.report.applied.length + 1)
        ((u :: us).map (·.1)) = [.progress u.1 (p.report.applied.length + 1) total] ++
          progressThrough total (p.report.applied.length + 1 + 1) (us.map (·.1)) := rfl
    rw [List.foldl_cons, ih, first, spread_append, ← List.append_assoc]
    simp [advance, Progress.through]

/-- Someone who is among the listeners once hears everything once. -/
theorem heardBy_of_spread {m : Migrations σ ν} {trace : List (TraceEntry ν)}
    {heard : List MigrationEvent} {n : Nat} (events : eventsOf trace = m.spread heard)
    (once : m.listeners.count n = 1) :
    heardBy n trace = if m.tellsEvents then heard else [] := by
  have each : ∀ (e : MigrationEvent) (ns : List Nat),
      (ns.map fun k => (k, e)).filterMap (fun x => if x.1 = n then some x.2 else none) =
        List.replicate (ns.count n) e := by
    intro e ns
    induction ns with
    | nil => rfl
    | cons k ns ih =>
      rw [List.map_cons, List.filterMap_cons, List.count_cons]
      by_cases same : k = n
      · simp [same, ih, List.replicate_succ]
      · simp [same, ih]
  have all : ∀ es : List MigrationEvent,
      (es.flatMap fun e => m.listeners.map fun k => (k, e)).filterMap
        (fun x => if x.1 = n then some x.2 else none) = es := by
    intro es
    induction es with
    | nil => rfl
    | cons e es ih =>
      rw [List.flatMap_cons, List.filterMap_append, each, once, ih]
      rfl
  rw [heardBy, events, spread]
  split
  · exact all heard
  · rfl

/-! ## What is told on the way -/

/-- What has been told when a run has taken its path, or failed on it. -/
structure Told (m : Migrations σ ν) (x : Except Failure Recorded) (told : List MigrationEvent)
    (q : Progress σ ν) : Prop where
  events : eventsOf q.trace = m.spread told
  within : told <+: m.route x
  path : ∀ p, q.report.path = some p ↔ .started p ∈ told
  applied : q.report.applied = versionsIn told

section Paths

variable {m L r} {s : σ} {v : Int64} {done rest : List (Int64 × SchemaFunction σ ν)}
  {told : List MigrationEvent} {x : Except Failure Recorded} {q : Progress σ ν}

theorem told_begun (m : Migrations σ ν) (x : Except Failure Recorded) (s : σ) :
    m.Told x [] (begun s) where
  events := m.spread_nil.symm
  within := List.nil_prefix
  path p := ⟨fun taken => (by cases taken), fun told => (by cases told)⟩
  applied := rfl

/-- What is told does not depend on the database, nor on what is noted. -/
theorem Told.congr (h : m.Told x told q) {q' : Progress σ ν}
    (events : eventsOf q'.trace = eventsOf q.trace) (path : q'.report.path = q.report.path)
    (applied : q'.report.applied = q.report.applied) : m.Told x told q' where
  events := events.trans h.events
  within := h.within
  path p := by rw [path, h.path]
  applied := applied.trans h.applied

/-- On the init path the path is told, and nothing else. -/
theorem told_runInits (hx : m.route x = [.started .init]) {p : Progress σ ν}
    (h : m.Told x [] p) : m.Told x [.started .init] ((m.runInits L r).run p).2 := by
  have here : m.Told x [.started .init]
      { p with
        report := { p.report with path := some .init }
        trace := p.trace ++ m.told (.started .init) } :=
    { events := by rw [eventsOf_append, h.events, eventsOf_told, ← spread_append, List.nil_append]
      within := hx ▸ List.prefix_refl _
      path := fun p => by simp [eq_comm]
      applied := h.applied }
  rw [run_runInits]
  simp only []
  split
  · exact here.congr (eventsOf_through _ _) rfl rfl
  · exact here.congr (eventsOf_through _ _) rfl rfl

/-- On the update path the functions that succeed are told one by one. -/
theorem told_behind (pending : m.pending v = done ++ rest) :
    m.Told (.ok (.version v))
      (.started .update :: progressThrough (m.pending v).length 1 (done.map (·.1)))
      (m.behind L r s v done) where
  events := by
    have departed : eventsOf (m.departed v (begun s)).trace = m.spread [.started .update] :=
      m.eventsOf_told _
    have counted : (m.departed v (begun s)).report.applied.length = 0 := rfl
    rw [behind, eventsOf_advance, departed, counted, ← spread_append]
    rfl
  within := by
    have parts : m.route (.ok (.version v)) =
        (.started .update :: progressThrough (m.pending v).length 1 (done.map (·.1))) ++
          progressThrough (m.pending v).length (1 + done.length) (rest.map (·.1)) := by
      have split := progressThrough_append (m.pending v).length 1 (done.map (·.1)) (rest.map (·.1))
      rw [List.length_map, ← List.map_append, ← pending] at split
      rw [route, split, List.cons_append]
    rw [parts]
    exact List.prefix_append _ _
  path p := by
    rw [report_behind, List.mem_cons, or_iff_left started_not_mem_progressThrough]
    simp [eq_comm]
  applied := by
    rw [report_behind]
    exact (versionsIn_progressThrough _ 1 _).symm

/-- What is told on the way to the end of a path, or to where it fails. -/
theorem exists_told (m : Migrations σ ν) (L : Ledger σ) (r : Registry) (s : σ) :
    ∃ told, m.Told (L.recorded s) told ((m.runSchema L r).run (begun s)).2 ∧
      (((m.runSchema L r).run (begun s)).1 = .ok () →
        ∃ x, L.recorded s = .ok x ∧ told = m.route (.ok x)) ∧
      ∀ v, L.recorded s = .ok (.version v) →
        ∃ done rest, m.Cut L r s v done rest ∧ versionsIn told = done.map (·.1) := by
  rcases hx : L.recorded s with e | x
  · rw [run_runSchema_error (p := begun s) hx]
    exact ⟨[], told_begun m _ s, fun done => (by cases done), fun v recorded => (by cases recorded)⟩
  cases x with
  | missing =>
    rw [run_runSchema_missing (p := begun s) hx]
    exact ⟨_, told_runInits rfl (told_begun m _ s), fun _ => ⟨_, rfl, rfl⟩,
      fun v recorded => (by cases recorded)⟩
  | unusable =>
    have dropped : m.Told (.ok .unusable) []
        ((begun s).through (Deed.ofWork L.drop (begun (ν := ν) s).database)) :=
      (told_begun m _ s).congr (eventsOf_through _ _) rfl rfl
    rw [run_runSchema_unusable (p := begun s) hx]
    simp only []
    split
    · exact ⟨_, told_runInits rfl (dropped.congr rfl rfl rfl), fun _ => ⟨_, rfl, rfl⟩,
        fun v recorded => (by cases recorded)⟩
    · exact ⟨[], dropped, fun done => (by cases done), fun v recorded => (by cases recorded)⟩
  | version v =>
    obtain ⟨done, rest, cut⟩ := m.exists_cut L r s v
    have told : m.Told (.ok (.version v))
        (.started .update :: progressThrough (m.pending v).length 1 (done.map (·.1)))
        (m.behind L r s v done) := told_behind cut.pending
    have versions : versionsIn (.started .update ::
        progressThrough (m.pending v).length 1 (done.map (·.1))) = done.map (·.1) :=
      versionsIn_progressThrough _ 1 _
    rcases cut.stop with rfl | ⟨u, us, e, rfl, hu⟩
    · have pending : m.pending v = done := by rw [cut.pending, List.append_nil]
      have schema : (m.runSchema L r).run (begun s) = (.ok (), m.behind L r s v done) := by
        rw [run_runSchema_of_leads hx (by rw [pending]; exact cut.leads), behind, pending]
      rw [schema]
      refine ⟨_, told, fun _ => ⟨_, rfl, ?_⟩, fun w recorded => ?_⟩
      · rw [route, ← pending]
      · cases recorded
        exact ⟨done, [], cut, versions⟩
    · rw [run_runSchema_of_update_error hx cut.pending cut.leads hu]
      refine ⟨_, told.congr (eventsOf_through _ _) rfl rfl, fun done => (by cases done),
        fun w recorded => ?_⟩
      cases recorded
      exact ⟨done, u :: us, cut, versions⟩

/-! ## What is told in a run -/

/-- The versions by which a run extends a ledger that records one, provided that versions ascend,
schema functions leave their transactions and the ledger alone, and ready functions the ledger. -/
def Extends (m : Migrations σ ν) (L : Ledger σ) (r : Registry) (s t : σ) (vs : List Int64) :
    Prop :=
  ∀ (δ : Type) (A : Aspect σ δ), L.Lawful A → m.versions.Pairwise (· < ·) →
    (∀ u ∈ m.updates, A.Tame (u.2 r (some u.1))) → (∀ f ∈ m.readies, A.AlwaysSpares (f r)) →
    ∀ (cs : List Cell) (v : Int64), A.Shows s (some cs) → greatest cs = .integer v → 0 ≤ v →
      A.Shows t (some (cs ++ vs.map .integer))

/-- What is told in a run that is finished. -/
structure Tells (m : Migrations σ ν) (L : Ledger σ) (r : Registry) (s : σ) (f : Finished σ ν)
    (heard : List MigrationEvent) : Prop where
  /-- Each event is told to everyone before the next one happens. -/
  events : eventsOf f.trace = m.spread heard
  /-- Nothing is heard if nobody is told of events. -/
  each : ∀ n, m.listeners.count n = 1 → heardBy n f.trace = if m.tellsEvents then heard else []
  untold : ∀ e, L.recorded s = .error e → heard = []
  within : ∀ x, L.recorded s = .ok x → heard <+: m.announced x
  /-- A run that comes to its end tells everything, and no other run does. -/
  whole : f.Completed ↔ ∃ x, L.recorded s = .ok x ∧ heard = m.announced x
  ascending : m.versions.Pairwise (· < ·) → (versionsIn heard).Pairwise (· < ·)
  /-- What is heard agrees with what the run reports. -/
  path : ∀ x, f.result = .ok x → ∀ p, x.path = some p ↔ .started p ∈ heard
  applied : ∀ x, f.result = .ok x → x.applied = versionsIn heard
  /-- Progress is told of the functions that succeed, each in a transaction with its record, up to
  the first that does not. -/
  kept : ∀ v, L.recorded s = .ok (.version v) →
    ∃ done rest, m.Cut L r.lock s v done rest ∧ versionsIn heard = done.map (·.1)
  extended : m.Extends L r.lock s f.database (versionsIn heard)

/-- The versions that can be told are pending, so they ascend if all versions do. -/
theorem ascending_versionsIn_route (hm : m.versions.Pairwise (· < ·))
    (x : Except Failure Recorded) : (versionsIn (m.route x)).Pairwise (· < ·) := by
  rcases x with e | recorded
  · exact List.Pairwise.nil
  cases recorded with
  | missing => exact List.Pairwise.nil
  | unusable => exact List.Pairwise.nil
  | version v =>
    have pending : versionsIn (m.route (.ok (.version v))) = (m.pending v).map (·.1) :=
      versionsIn_progressThrough _ 1 _
    rw [pending]
    exact (List.pairwise_cons.mp (pending_ascending hm)).2

/-- The versions of the functions that succeed extend the ledger. -/
theorem extends_of_cut (hm : m.stage = .init) {vs : List Int64}
    (h : ∀ v, L.recorded s = .ok (.version v) →
      ∃ done rest, m.Cut L r.lock s v done rest ∧ vs = done.map (·.1)) :
    m.Extends L r.lock s (m.execute L r s).database vs := by
  intro δ A hL ascending tame spares cs v shows greatest natural
  have recorded : L.recorded s = .ok (.version v) := (hL.recorded shows).trans
    (congrArg Except.ok (Recorded.ofCells_eq_version_iff.mpr ⟨greatest, natural⟩))
  obtain ⟨done, rest, cut, rfl⟩ := h v recorded
  have upTo := pending_ascending (v := v) ascending
  rw [cut.pending, List.map_append, ← List.cons_append] at upTo
  have mem : ∀ u ∈ done, u ∈ m.updates := fun u hu =>
    (List.mem_filter.mp (cut.pending ▸ List.mem_append_left rest hu)).1
  have lead := hL.shows_lead (fun u hu => tame u (mem u hu)) cut.leads shows greatest
    (upTo.sublist (List.sublist_append_left _ _))
  rw [(execute_of_cut hm recorded cut).1]
  exact shows_ending hL cut (fun u hu => (tame u hu).within) spares lead

/-- What is left of the events when a run is finished. -/
theorem eventsOf_execute (hm : m.stage = .init) {result : Except Failure Unit}
    {p : Progress σ ν} (h : (m.run L r.lock).run (begun s) = (result, p)) :
    eventsOf (m.execute L r s).trace = eventsOf p.trace := by
  rcases result with e | ⟨⟩
  · rw [execute_of_error hm h, eventsOf_append]
    split
    · exact List.append_nil _
    · exact List.append_nil _
  · rw [execute_of_ok hm h]

/-- What is told in a run is what was told on its path and behind it. -/
theorem tells_of_told (hm : m.stage = .init) (h : m.Told (L.recorded s) told q)
    (kept : ∀ v, L.recorded s = .ok (.version v) →
      ∃ done rest, m.Cut L r.lock s v done rest ∧ versionsIn told = done.map (·.1))
    {result : Except Failure Unit} {p : Progress σ ν}
    (run : (m.run L r.lock).run (begun s) = (result, p)) (report : p.report = q.report)
    {tail : List MigrationEvent} (behind : tail <+: [.ready, .done])
    (events : eventsOf p.trace = m.spread (told ++ tail))
    (full : tail ≠ [] → ∃ x, L.recorded s = .ok x ∧ told = m.route (.ok x))
    (whole : (m.execute L r s).Completed ↔ tail = [.ready, .done]) :
    m.Tells L r s (m.execute L r s) (told ++ tail) := by
  have left := eventsOf_execute hm run
  obtain ⟨-, -, -, reported, -⟩ := execute_of_run hm run
  have silent : versionsIn tail = [] :=
    List.prefix_nil.mp (behind.filterMap MigrationEvent.version?)
  have versions : versionsIn (told ++ tail) = versionsIn told := by
    rw [versionsIn_append, silent, List.append_nil]
  have started : ∀ a, .started a ∈ told ++ tail ↔ .started a ∈ told := by
    intro a
    refine List.mem_append.trans (or_iff_left fun late => ?_)
    simpa using behind.subset late
  have again : ∀ v, L.recorded s = .ok (.version v) →
      ∃ done rest, m.Cut L r.lock s v done rest ∧ versionsIn (told ++ tail) = done.map (·.1) := by
    rw [versions]
    exact kept
  constructor
  case events => exact left.trans events
  case each => exact fun n once => heardBy_of_spread (left.trans events) once
  case untold =>
    intro e failed
    have within := h.within
    rw [failed] at within
    have early : tail = [] := by
      by_contra late
      obtain ⟨x, recorded, -⟩ := full late
      cases failed.symm.trans recorded
    rw [List.prefix_nil.mp within, early, List.append_nil]
  case within =>
    intro x recorded
    have within := h.within
    rw [recorded] at within
    by_cases early : tail = []
    · rw [early, List.append_nil]
      exact within.trans (List.prefix_append _ _)
    · obtain ⟨y, recorded', rfl⟩ := full early
      cases recorded.symm.trans recorded'
      exact (List.prefix_append_right_inj _).mpr behind
  case whole =>
    rw [whole]
    constructor
    · intro ended
      obtain ⟨x, recorded, rfl⟩ := full (ended ▸ List.cons_ne_nil _ _)
      exact ⟨x, recorded, by rw [ended, announced]⟩
    · rintro ⟨x, recorded, all⟩
      have within := h.within
      rw [recorded] at within
      -- What is told on the path is not longer than the path, nor is the rest too long.
      have lengths := congrArg List.length all
      have short := within.length_le
      have short' := behind.length_le
      rw [announced, List.length_append, List.length_append] at lengths
      exact behind.eq_of_length_le (by omega)
  case ascending =>
    intro ascending
    rw [versions]
    exact (ascending_versionsIn_route ascending _).sublist
      (h.within.filterMap MigrationEvent.version?).sublist
  case path =>
    intro x done a
    rw [reported x done, started, ← h.path, ← report]
  case applied =>
    intro x done
    rw [reported x done, versions, ← h.applied, ← report]
  case kept => exact again
  case extended => exact extends_of_cut hm again

/-- Whatever is recorded and wherever it fails, a run tells what it does. -/
theorem exists_tells_execute (hm : m.stage = .init) (L : Ledger σ) (r : Registry) (s : σ) :
    ∃ heard, m.Tells L r s (m.execute L r s) heard := by
  obtain ⟨told, h, full, kept⟩ := m.exists_told L r.lock s
  rcases schema : (m.runSchema L r.lock).run (begun s) with ⟨e | ⟨⟩, q⟩
  · rw [schema] at h
    have run := run_of_schema_error schema
    have ended := (execute_of_run hm run).2.2.2.2
    refine ⟨told ++ [], tells_of_told hm h kept run rfl List.nil_prefix ?_ (absurd rfl) ?_⟩
    · rw [List.append_nil, h.events]
    · exact ⟨fun completed => (by cases ended completed), fun clash => (by cases clash)⟩
  · rw [schema] at h full
    have all := full rfl
    have run := m.run_run L r.lock (begun s)
    rw [schema] at run
    simp only [] at run
    obtain ⟨-, -, succeeded, failed⟩ := execute_of_path hm schema
    rcases waited : (m.readiness r.lock q.database).result with e | ⟨⟩
    · rw [waited] at run failed
      refine ⟨told ++ [.ready], tells_of_told hm h kept run rfl ?_ ?_ (fun _ => all) ?_⟩
      · exact List.prefix_append [MigrationEvent.ready] [.done]
      · simp [h.events]
      · exact ⟨fun completed => absurd completed (failed nofun).2, fun clash => (by cases clash)⟩
    · rw [waited] at run succeeded
      refine ⟨told ++ [.ready, .done], tells_of_told hm h kept run rfl (List.prefix_refl _) ?_
        (fun _ => all) ?_⟩
      · have both : m.spread [.ready, .done] = m.spread [.ready] ++ m.spread [.done] :=
          m.spread_append [.ready] [.done]
        simp [h.events, both]
      · exact ⟨fun _ => rfl, fun _ => (succeeded rfl).2⟩

end Paths

end Migrations

namespace Attempt

variable {σ ν : Type} {a : Attempt σ ν}

/-- **What is told in a run, for the first time or again.**  Whatever is recorded, whatever the
functions do and wherever one fails, listeners hear a part of what was announced, in order, and all
of it exactly if the run comes to its end; in a run that tells nobody of events they hear nothing.
Progress is told of the versions that the run reports. -/
theorem exists_tells (ha : a.Accepted) (L : Ledger σ) (s : σ) :
    ∃ heard, a.opened.Tells L a.registry s (a.finish L s) heard := by
  rw [ha.finish_eq]
  exact Migrations.exists_tells_execute ha.stage_opened L a.registry s

/-- Four update functions of which the third fails, with someone who listens. -/
def overheard : Attempt Connection String :=
  ⟨{ Migrations.torn with listeners := [7] }, .empty .standard, false⟩

theorem exists_tells_overheard :
    overheard.Accepted ∧ ∃ heard, overheard.opened.Tells standardLedger (.empty .standard)
        (versioned [2]) (overheard.finish standardLedger (versioned [2])) heard ∧
      heard = [.started .update, .progress 3 1 3] := by
  have accepted : overheard.Accepted := by decide
  obtain ⟨heard, tells⟩ := exists_tells accepted standardLedger (versioned [2])
  refine ⟨accepted, heard, tells, ?_⟩
  have told := tells.each 7 (by decide)
  rw [if_pos (by decide)] at told
  rw [← told]
  decide +kernel

/-! ## Versions of which nobody is told -/

/-- Migrations with one update function, and someone who listens. -/
def firstVersion (f : SchemaFunction Connection String) : Migrations Connection String :=
  { Migrations.empty with updates := [(1, f)], listeners := [7] }

/-- The init path records the latest version without telling of progress.  On the update path a
function that commits on its own has its version recorded, but then the run fails and does not tell
of it. -/
theorem not_progress_of_recorded :
    let created := (firstVersion (idle "one")).execute standardLedger (.empty .standard) .blank
    let torn := (firstVersion (running "COMMIT" (.ok ()))).execute standardLedger
      (.empty .standard) (versioned [0])
    ((standardLedger.recorded .blank).toOption = some .missing ∧
        (standardLedger.recorded created.database).toOption = some (.version 1) ∧
        (created.result.toOption.map fun x => x.halted) = some false ∧
        heardBy 7 created.trace = [.started .init, .ready, .done]) ∧
      (standardLedger.recorded (versioned [0])).toOption = some (.version 0) ∧
        (standardLedger.recorded torn.database).toOption = some (.version 1) ∧
        torn.result.toOption = none ∧ heardBy 7 torn.trace = [.started .update] := by
  decide +kernel

end Attempt

end FilterStore
