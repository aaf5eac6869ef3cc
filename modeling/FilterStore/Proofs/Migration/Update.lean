import FilterStore.Proofs.Migration.VersionTable.Tame
import FilterStore.Proofs.Migration.Watch

/-!
# The update path

Where a version is recorded, a run calls the update functions above it, in order and up to the first
that fails.  Each of them is a transaction together with the record of its version.  So the versions
that are appended to the ledger are those of the functions that succeeded, and of the one that
failed nothing is left: the tables are those to which the functions before it lead on their own.

Where the list of pending functions is cut depends on databases and results alone
(`Migrations.Cut`).  Everything else is read off the cut: what the ledger holds, since the versions
ascend and each is above the greatest one when it is appended; what is reported; and which functions
are called, since watched functions are cut at the same place.
-/

namespace FilterStore

open Engine (Connection)
open VersionTable (greatest running tame_running)

/-- The version of an update function cannot be recorded, or what it did cannot be kept. -/
def Ledger.Refuses {σ : Type} (L : Ledger σ) (v : Int64) (s : σ) : Prop :=
  ((do L.append v; L.bounds.commit : ExceptT Failure (StateM σ) Unit).run s).1 ≠ .ok ()

/-! ## The ledger behind functions that succeed -/

namespace Ledger.Lawful

variable {σ δ ν : Type} {L : Ledger σ} {A : Aspect σ δ} {r : Registry} {s : σ}
  {us : List (Int64 × SchemaFunction σ ν)}

/-- Functions that succeed append their versions, if these ascend from the greatest one. -/
theorem shows_lead (hL : L.Lawful A) {cs : List Cell} {n : Int64}
    (hus : ∀ u ∈ us, A.Tame (u.2 r (some u.1))) (hl : L.Leads r s us)
    (hcs : A.Shows s (some cs)) (hn : greatest cs = .integer n)
    (asc : (n :: us.map (·.1)).Pairwise (· < ·)) :
    A.Shows (L.lead r s us) (some (cs ++ (us.map (·.1)).map .integer)) := by
  induction us generalizing s cs n with
  | nil => exact (List.append_nil cs).symm ▸ hcs
  | cons u us ih =>
    obtain ⟨above, rest⟩ := List.pairwise_cons.mp asc
    have hu : n < u.1 := above u.1 List.mem_cons_self
    have appended := hL.shows_of_update_ok (hus u List.mem_cons_self) hl.1 hcs
      (.inr ⟨n, hn, hu⟩)
    have shows := ih (fun w hw => hus w (List.mem_cons_of_mem u hw)) hl.2 appended
      (VersionTable.greatest_append hn hu) rest
    rwa [List.append_assoc] at shows

end Ledger.Lawful

/-! ## Where the pending functions are cut -/

namespace Migrations

variable {σ δ ν : Type} {m : Migrations σ ν} {L : Ledger σ} {r : Registry} {s : σ} {v : Int64}
  {done rest : List (Int64 × SchemaFunction σ ν)}

/-- The pending functions are cut before the first that fails. -/
structure Cut (m : Migrations σ ν) (L : Ledger σ) (r : Registry) (s : σ) (v : Int64)
    (done rest : List (Int64 × SchemaFunction σ ν)) : Prop where
  pending : m.pending v = done ++ rest
  leads : L.Leads r s done
  stop : rest = [] ∨
    ∃ u us e, rest = u :: us ∧ (L.update r u (L.lead r s done)).result = .error e

theorem exists_cut (m : Migrations σ ν) (L : Ledger σ) (r : Registry) (s : σ) (v : Int64) :
    ∃ done rest, m.Cut L r s v done rest := by
  obtain ⟨done, rest, pending, leads, stop⟩ := L.exists_leads r s (m.pending v)
  exact ⟨done, rest, pending, leads, stop⟩

/-- The progress behind the functions that succeed. -/
def behind (m : Migrations σ ν) (L : Ledger σ) (r : Registry) (s : σ) (v : Int64)
    (done : List (Int64 × SchemaFunction σ ν)) : Progress σ ν :=
  done.foldl (m.advance L r (m.pending v).length) (m.departed v (begun s))

/-- What a run does last on the update path: it waits, or it tries the function that fails. -/
def ending (m : Migrations σ ν) (L : Ledger σ) (r : Registry) :
    List (Int64 × SchemaFunction σ ν) → Deed σ ν
  | [] => m.readiness r
  | u :: _ => L.update r u

/-- A run on the update path, as it follows from the cut. -/
theorem execute_of_cut (hm : m.stage = .init) (hv : L.recorded s = .ok (.version v))
    (cut : m.Cut L r.lock s v done rest) :
    let o := m.ending L r.lock rest (L.lead r.lock s done)
    (m.execute L r s).database = o.database ∧
      notesOf (m.execute L r s).trace = notesOf (m.behind L r.lock s v done).trace ++ o.notes ∧
      (∀ x, (m.execute L r s).result = .ok x →
        x = { (m.behind L r.lock s v done).report with halted := x.halted }) ∧
      ((m.execute L r s).Completed → rest = []) := by
  have reached : (m.behind L r.lock s v done).database = L.lead r.lock s done :=
    m.database_advance L r.lock _ done _
  rcases cut.stop with rfl | ⟨u, us, e, rfl, hu⟩
  · have pending : m.pending v = done := by rw [cut.pending, List.append_nil]
    have schema : (m.runSchema L r.lock).run (begun s) = (.ok (), m.behind L r.lock s v done) := by
      rw [run_runSchema_of_leads hv (by rw [pending]; exact cut.leads), behind, pending]
    obtain ⟨p, run, database, report, -, notes⟩ := run_of_schema_ok schema
    rw [reached] at database notes
    obtain ⟨left, -, noted, reported, -⟩ := execute_of_run hm run
    rw [database] at left
    rw [notes] at noted
    rw [report] at reported
    exact ⟨left, noted, reported, fun _ => rfl⟩
  · have schema : (m.runSchema L r.lock).run (begun s) = (.error e,
        (m.behind L r.lock s v done).through (L.update r.lock u (L.lead r.lock s done))) :=
      run_runSchema_of_update_error hv cut.pending cut.leads hu
    obtain ⟨left, -, noted, reported, completed⟩ := execute_of_run hm (run_of_schema_error schema)
    rw [notesOf_through] at noted
    exact ⟨left, noted, reported, fun h => by cases completed h⟩

theorem report_behind :
    (m.behind L r s v done).report =
      { path := some .update, previous := some v, applied := done.map (·.1)
        current := (done.map (·.1)).getLast?.getD v, recovered := false, halted := false } :=
  m.report_advance L r _ done _

/-- Pending functions are above the version that is recorded, each above the one before. -/
theorem pending_ascending (hm : m.versions.Pairwise (· < ·)) :
    (v :: (m.pending v).map (·.1)).Pairwise (· < ·) := by
  refine List.pairwise_cons.mpr ⟨fun w hw => ?_, ?_⟩
  · obtain ⟨u, hu, rfl⟩ := List.mem_map.mp hw
    exact of_decide_eq_true (List.mem_filter.mp hu).2
  · exact hm.sublist (List.filter_sublist.map Prod.fst)

/-! ## Calls -/

/-- The call of an update function that succeeds. -/
def calledUpdate (u : Int64 × SchemaFunction σ ν) : Call :=
  { kind := .update, version := some u.1, result := .ok () }

theorem leads_watched (h : L.Leads r s done) :
    L.Leads r s (done.map watchedUpdate) ∧
      L.lead r s (done.map watchedUpdate) = L.lead r s done := by
  induction done generalizing s with
  | nil => exact ⟨trivial, rfl⟩
  | cons u done ih =>
    obtain ⟨database, result⟩ := update_watched L r u s
    show ((L.update r (watchedUpdate u) s).result = .ok () ∧
      L.Leads r (L.update r (watchedUpdate u) s).database (done.map watchedUpdate)) ∧
      L.lead r (L.update r (watchedUpdate u) s).database (done.map watchedUpdate) =
        L.lead r (L.update r u s).database done
    rw [result, database]
    exact ⟨⟨h.1, (ih h.2).1⟩, (ih h.2).2⟩

theorem Cut.watched (cut : m.Cut L r s v done rest) :
    m.watched.Cut L r s v (done.map watchedUpdate) (rest.map watchedUpdate) where
  pending := by rw [pending_watched, cut.pending, List.map_append]
  leads := (leads_watched cut.leads).1
  stop := by
    rcases cut.stop with rfl | ⟨u, us, e, rfl, hu⟩
    · exact .inl rfl
    · refine .inr ⟨_, _, e, rfl, ?_⟩
      rw [(leads_watched cut.leads).2, (update_watched ..).2, hu]

theorem notes_of_update_watched {u : Int64 × SchemaFunction σ ν}
    (h : (L.update r u s).result = .ok ()) :
    (L.update r (watchedUpdate u) s).notes = [calledUpdate u] := by
  obtain ⟨s', t, -, done, -, whole⟩ :=
    Deed.exists_of_whole_ok ((update_watched L r u s).2.trans h)
  have called : (u.2 r (some u.1) s').result = .ok () := (Deed.result_andThen_eq_ok_iff.mp done).1
  refine (congrArg Outcome.notes whole).trans ((Deed.notes_andThen_ofWork ..).trans ?_)
  simp only [watchedUpdate, Deed.watched, called, calledUpdate]

theorem notes_advance_watched (total : Nat) {p : Progress σ Call} (h : L.Leads r p.database done) :
    notesOf ((done.map watchedUpdate).foldl (m.watched.advance L r total) p).trace =
      notesOf p.trace ++ done.map calledUpdate := by
  induction done generalizing p with
  | nil => exact (List.append_nil _).symm
  | cons u done ih =>
    have next : (m.watched.advance L r total p (watchedUpdate u)).database =
        (L.update r u p.database).database := (update_watched L r u p.database).1
    refine (ih (p := m.watched.advance L r total p (watchedUpdate u)) (next ▸ h.2)).trans ?_
    simp [advance, notes_of_update_watched h.1]

/-- The functions before the cut are called in order, and succeed. -/
theorem notes_behind_watched (h : L.Leads r s done) :
    notesOf (m.watched.behind L r s v (done.map watchedUpdate)).trace = done.map calledUpdate := by
  have departed : notesOf (m.watched.departed v (begun s)).trace = [] := notesOf_told ..
  refine (notes_advance_watched _ (p := m.watched.departed v (begun s)) h).trans ?_
  rw [departed, List.nil_append]

/-- The calls on the update path: the functions before the cut, and then the ready functions, or
the function that fails. -/
theorem exists_calls_of_cut (hm : m.stage = .init) (hv : L.recorded s = .ok (.version v))
    (cut : m.Cut L r.lock s v done rest) :
    ∃ last, m.calls L r s = done.map calledUpdate ++ last ∧
      ((∀ c ∈ last, c.kind = .ready ∧ c.version = none) ∨
        ∃ u ∈ rest, ∃ result, last = [{ kind := .update, version := some u.1, result }]) := by
  obtain ⟨-, calls, -⟩ := execute_of_cut (m := m.watched) hm hv cut.watched
  rw [notes_behind_watched cut.leads, (leads_watched cut.leads).2] at calls
  refine ⟨_, calls, ?_⟩
  rcases cut.stop with rfl | ⟨u, us, e, rfl, -⟩
  · exact .inl fun c hc => m.notesOnly_readiness r.lock _ c hc
  · rcases notes_update_watched L r.lock u (L.lead r.lock s done) with none | ⟨result, one⟩
    · refine .inl fun c hc => ?_
      have absent : c ∈ (L.update r.lock (watchedUpdate u) (L.lead r.lock s done)).notes := hc
      rw [none] at absent
      cases absent
    · exact .inr ⟨u, List.mem_cons_self, result, one⟩

/-- Migrations that have some update functions only, and wait for nothing. -/
def only (m : Migrations σ ν) (us : List (Int64 × SchemaFunction σ ν)) : Migrations σ ν :=
  { m with updates := us, readies := [] }

/-- After the cut the ledger stays as it is. -/
theorem shows_ending {A : Aspect σ δ} (hL : L.Lawful A) (cut : m.Cut L r s v done rest)
    (hupdates : ∀ u ∈ m.updates, A.Within (u.2 r (some u.1)))
    (hreadies : ∀ f ∈ m.readies, A.AlwaysSpares (f r)) {x : Option (List Cell)}
    (hx : A.Shows (L.lead r s done) x) :
    A.Shows (m.ending L r rest (L.lead r s done)).database x := by
  rcases cut.stop with rfl | ⟨u, us, e, rfl, hu⟩
  · exact Aspect.alwaysSpares_readiness hreadies _ x hx
  · have pending : u ∈ m.pending v := cut.pending ▸ List.mem_append_right done List.mem_cons_self
    have within := hupdates u (List.mem_filter.mp pending).1
    exact hx.congr (hL.same_of_update_error within hu).1

/-- Four update functions, of which the third fails. -/
def torn : Migrations Connection String :=
  { empty with
    updates :=
      [(1, running "CREATE TABLE one (line TEXT)" (.ok ())),
        (3, running "CREATE TABLE three (line TEXT)" (.ok ())),
        (4, running "CREATE TABLE four (line TEXT)" (.error .notOpen)),
        (9, running "CREATE TABLE nine (line TEXT)" (.ok ()))] }

end Migrations

end FilterStore
