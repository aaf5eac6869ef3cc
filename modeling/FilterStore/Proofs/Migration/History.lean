import Mathlib.Data.List.Flatten
import FilterStore.Proofs.Migration.Init
import FilterStore.Proofs.Migration.Update

/-!
# Histories of runs

A database goes through many runs, of migrations with more or fewer functions, and any of them may
fail anywhere.  Since every step that is taken leaves its version in the ledger, and every later run
looks there first, no version is taken twice: over the whole history the versions in the ledger
ascend, init functions run at most until they have succeeded once, and a run that comes to its end
leaves nothing to do for later ones with the same versions.

All of this rests on versions that ascend from above zero, as they are registered one after the
other (`Migrations.InOrder`).  There is one way around that: after the greatest version there is, the
next one that is asked for is the least one.
-/

namespace FilterStore

open Engine (Connection)
open VersionTable (running tame_running)

/-! ## Versions in order -/

/-- Of versions that ascend none is above the last. -/
theorem exists_last {vs : List Int64} (asc : vs.Pairwise (· < ·)) {v : Int64} (hv : v ∈ vs) :
    ∃ w, vs.getLast? = some w ∧ v ≤ w := by
  induction vs with
  | nil => cases hv
  | cons u vs ih =>
    obtain ⟨above, rest⟩ := List.pairwise_cons.mp asc
    rcases last : vs.getLast? with _ | w
    · obtain rfl := List.getLast?_eq_none_iff.mp last
      obtain rfl := List.mem_singleton.mp hv
      exact ⟨v, rfl, Int64.le_refl v⟩
    · refine ⟨w, by rw [List.getLast?_cons, last]; rfl, ?_⟩
      rcases List.mem_cons.mp hv with rfl | hv
      · exact Int64.le_of_lt (above w (List.mem_of_getLast? last))
      · obtain ⟨w', last', le⟩ := ih rest hv
        rw [last] at last'
        cases last'
        exact le

namespace Migrations

variable {σ ν : Type} {m : Migrations σ ν}

/-- The versions of the update functions ascend from above zero. -/
structure InOrder (m : Migrations σ ν) : Prop where
  ascending : m.versions.Pairwise (· < ·)
  positive : ∀ v ∈ m.versions, 0 < v

theorem InOrder.le_latest (h : m.InOrder) {v : Int64} (hv : v ∈ m.versions) : v ≤ m.latest := by
  obtain ⟨w, last, le⟩ := exists_last h.ascending hv
  unfold latest
  rwa [last]

theorem InOrder.natural_latest (h : m.InOrder) : 0 ≤ m.latest := by
  unfold latest
  rcases last : m.versions.getLast? with _ | w
  · exact Int64.le_refl 0
  · exact Int64.le_of_lt (h.positive w (List.mem_of_getLast? last))

/-- What is not pending is not above the version that is recorded. -/
theorem latest_le_or_mem (v : Int64) (hv : 0 ≤ v) :
    m.latest ≤ v ∨ m.latest ∈ (m.pending v).map (·.1) := by
  by_cases above : m.latest ≤ v
  · exact .inl above
  · refine .inr ?_
    have lt : v < m.latest := Int64.not_le.mp above
    unfold latest at lt ⊢
    rcases last : m.versions.getLast? with _ | w
    · rw [last] at lt
      exact absurd (Int64.lt_of_le_of_lt hv lt) Int64.lt_irrefl
    · rw [last] at lt
      obtain ⟨u, hu, rfl⟩ := List.mem_map.mp (List.mem_of_getLast? last)
      exact List.mem_map.mpr ⟨u, List.mem_filter.mpr ⟨hu, decide_eq_true lt⟩, rfl⟩

end Migrations

/-- The cells of a ledger with some versions; without any there is no ledger. -/
def cellsOf (vs : List Int64) : Option (List Cell) :=
  if vs = [] then none else some (vs.map .integer)

/-- The ledger of a database holds some versions, which ascend from zero. -/
structure Aspect.Holds {σ δ : Type} (A : Aspect σ δ) (s : σ) (vs : List Int64) : Prop where
  shows : A.Shows s (cellsOf vs)
  ascending : vs.Pairwise (· < ·)
  natural : ∀ v ∈ vs, 0 ≤ v

/-- What is recorded is the last of the versions. -/
theorem Aspect.Holds.recorded {σ δ : Type} {L : Ledger σ} {A : Aspect σ δ} {s : σ}
    {vs : List Int64} (h : A.Holds s vs) (hL : L.Lawful A) {x : Recorded}
    (hx : L.recorded s = .ok x) :
    (vs = [] ∧ x = .missing) ∨ ∃ w, vs.getLast? = some w ∧ x = .version w := by
  obtain rfl := Except.ok.inj ((hL.recorded h.shows).symm.trans hx)
  rw [cellsOf]
  rcases last : vs.getLast? with _ | w
  · obtain rfl := List.getLast?_eq_none_iff.mp last
    exact .inl ⟨rfl, rfl⟩
  · have mem := List.mem_of_getLast? last
    rw [if_neg (List.ne_nil_of_mem mem)]
    exact .inr ⟨w, rfl, Recorded.ofCells_eq_version_iff.mpr
      ⟨VersionTable.greatest_of_ascending h.ascending last, h.natural w mem⟩⟩

/-! ## Attempts -/

/-- An attempt to run migrations, for the first time or again. -/
structure Attempt (σ ν : Type) where
  migrations : Migrations σ ν
  registry : Registry
  again : Bool

namespace Attempt

variable {σ δ ν : Type}

/-- What an attempt leaves behind. -/
def finish (L : Ledger σ) (a : Attempt σ ν) (s : σ) : Migrations.Finished σ ν :=
  if a.again then a.migrations.reExecute L a.registry s
  else a.migrations.execute L a.registry s

/-- The calls of an attempt, in order. -/
def calls (L : Ledger σ) (a : Attempt σ ν) (s : σ) : List Call :=
  notesOf ({ a with migrations := a.migrations.watched }.finish L s).trace

/-- The database behind some attempts. -/
def after (L : Ledger σ) (as : List (Attempt σ ν)) (s : σ) : σ :=
  as.foldl (fun s a => (a.finish L s).database) s

/-! ### Attempts that are accepted -/

/-- A run is accepted where it has not been made yet, and another one where all is done. -/
def Accepted (a : Attempt σ ν) : Prop := a.migrations.stage = if a.again then .done else .init

instance (a : Attempt σ ν) : Decidable a.Accepted := inferInstanceAs (Decidable (_ = _))

section Accepted

variable {L : Ledger σ} {a : Attempt σ ν} {s : σ}

/-- The migrations as a run takes them up. -/
def opened (a : Attempt σ ν) : Migrations σ ν :=
  if a.again then { a.migrations with stage := .init, rerunning := true } else a.migrations

theorem Accepted.stage_opened (ha : a.Accepted) : a.opened.stage = .init := by
  obtain ⟨m, r, again⟩ := a
  cases again
  · exact ha
  · rfl

theorem Accepted.finish_eq (ha : a.Accepted) (L : Ledger σ) (s : σ) :
    a.finish L s = a.opened.execute L a.registry s := by
  obtain ⟨m, r, again⟩ := a
  cases again
  · rfl
  · exact Migrations.reExecute_of_done ha

theorem Accepted.calls_eq (ha : a.Accepted) (L : Ledger σ) (s : σ) :
    a.calls L s = a.opened.calls L a.registry s := by
  obtain ⟨m, r, again⟩ := a
  cases again
  · rfl
  · exact congrArg (fun f => notesOf f.trace) (Migrations.reExecute_of_done (m := m.watched) ha)

/-- A run that is not accepted leaves everything as it is. -/
theorem finish_of_not_accepted (ha : ¬a.Accepted) :
    a.finish L s = a.migrations.refused a.registry s
        (if a.again then .notDone a.migrations.stage else .alreadyRun a.migrations.stage) ∧
      a.calls L s = [] := by
  obtain ⟨m, r, again⟩ := a
  cases again
  · refine ⟨Migrations.execute_of_stage ha, ?_⟩
    show notesOf (m.watched.execute L r s).trace = []
    rw [Migrations.execute_of_stage (m := m.watched) ha]
    rfl
  · refine ⟨Migrations.reExecute_of_stage ha, ?_⟩
    show notesOf (m.watched.reExecute L r s).trace = []
    rw [Migrations.reExecute_of_stage (m := m.watched) ha]
    rfl

end Accepted

/-- An attempt with versions in order, by functions that leave their transactions and the ledger
alone. -/
structure Orderly (A : Aspect σ δ) (a : Attempt σ ν) : Prop where
  order : a.migrations.InOrder
  inits : ∀ f ∈ a.migrations.inits, A.Tame (f a.registry.lock none)
  updates : ∀ u ∈ a.migrations.updates, A.Tame (u.2 a.registry.lock (some u.1))
  readies : ∀ f ∈ a.migrations.readies, A.AlwaysSpares (f a.registry.lock)

/-- What an attempt adds to a ledger with some versions. -/
structure Adds (L : Ledger σ) (A : Aspect σ δ) (a : Attempt σ ν) (s : σ)
    (old new : List Int64) : Prop where
  before : A.Holds s old
  after : A.Holds (a.finish L s).database (old ++ new)
  /-- Where there are versions, those that are added are those of the update functions that were
  called and succeeded, but for a last one of which nothing was kept. -/
  applied : old ≠ [] → ∃ last, a.calls L s =
    new.map (fun v => { kind := .update, version := some v, result := .ok () }) ++ last ∧
      ((∀ c ∈ last, c.kind = .ready) ∨ ∃ c, last = [c] ∧ c.kind = .update)
  /-- No update function is called for a version that is there, or for one below. -/
  above : ∀ c ∈ a.calls L s, ∀ v, c.version = some v → ∀ w ∈ old, w < v
  completed : (a.finish L s).Completed → ∃ w ∈ old ++ new, a.migrations.latest ≤ w
  settled : (∃ w ∈ old, a.migrations.latest ≤ w) → new = [] ∧ ∀ c ∈ a.calls L s, c.kind = .ready

section Execute

variable {L : Ledger σ} {A : Aspect σ δ} {m : Migrations σ ν} {r : Registry} {s : σ}
  {old : List Int64}

/-- An attempt that is not looked at any closer leaves everything as it is. -/
theorem adds_nothing {a : Attempt σ ν} (h : A.Holds s old) (database : (a.finish L s).database = s)
    (calls : a.calls L s = []) (failed : ¬(a.finish L s).Completed) : a.Adds L A s old [] := by
  constructor
  case before => exact h
  case after =>
    rw [database, List.append_nil]
    exact h
  case applied => exact fun _ => ⟨[], calls, .inl fun c hc => by cases hc⟩
  case above =>
    rw [calls]
    intro c hc
    cases hc
  case completed => exact fun completed => absurd completed failed
  case settled =>
    rw [calls]
    exact fun _ => ⟨rfl, fun c hc => by cases hc⟩

/-- On the init path nobody is told a version. -/
theorem version_of_calls_missing (hm : m.stage = .init) (hx : L.recorded s = .ok .missing) :
    ∀ c ∈ m.calls L r s, c.version = none := by
  obtain ⟨through, stopped⟩ := Migrations.execute_of_missing (m := m.watched) (r := r) hm hx
  unfold Migrations.calls
  intro c hc
  by_cases created : (m.watched.creation L r.lock s).result = .ok ()
  · rw [(through created).2] at hc
    rcases List.mem_append.mp hc with hc | hc
    · exact (m.notesOnly_creation L r.lock s c hc).2
    · exact (m.notesOnly_readiness r.lock _ c hc).2
  · rw [(stopped created).2.1] at hc
    exact (m.notesOnly_creation L r.lock s c hc).2

/-- Where nothing is recorded, the latest version is added or nothing is. -/
theorem adds_of_missing (hL : L.Lawful A) (hm : m.stage = .init)
    (ha : Orderly A ⟨m, r, false⟩) (h : A.Holds s []) (hx : L.recorded s = .ok .missing) :
    ∃ new, Adds L A ⟨m, r, false⟩ s [] new := by
  obtain ⟨through, stopped⟩ := Migrations.execute_of_missing (r := r) hm hx
  have untold := version_of_calls_missing (r := r) hm hx
  rcases created : (m.creation L r.lock s).result with e | ⟨⟩
  · obtain ⟨database, -, failed⟩ := stopped (by rw [created]; exact fun h => by cases h)
    have same := (hL.same_of_creation_error (fun f hf => (ha.inits f hf).within) created).1
    refine ⟨[], ?_⟩
    constructor
    case before => exact h
    case after =>
      exact ⟨h.shows.congr ((congrArg A.tables database).trans same), h.ascending, h.natural⟩
    case applied => exact fun some => absurd rfl some
    case above => exact fun c hc v told => by cases (untold c hc).symm.trans told
    case completed => exact fun completed => absurd completed failed
    case settled => exact fun ⟨w, hw, _⟩ => by cases hw
  · have shows := hL.shows_of_creation_ok ha.inits created h.shows
    refine ⟨[m.latest], ?_⟩
    constructor
    case before => exact h
    case after =>
      refine ⟨?_, List.pairwise_singleton .., fun v hv => ?_⟩
      · have ended := Aspect.alwaysSpares_readiness ha.readies _ _ shows
        exact ended.congr (congrArg A.tables (through created).1)
      · obtain rfl := List.mem_singleton.mp hv
        exact ha.order.natural_latest
    case applied => exact fun some => absurd rfl some
    case above => exact fun c hc v told => by cases (untold c hc).symm.trans told
    case completed => exact fun _ => ⟨m.latest, List.mem_singleton.mpr rfl, Int64.le_refl _⟩
    case settled => exact fun ⟨w, hw, _⟩ => by cases hw

/-- Where a version is recorded, those of the functions that succeed are added. -/
theorem adds_of_version (hL : L.Lawful A) (hm : m.stage = .init)
    (ha : Orderly A ⟨m, r, false⟩) (h : A.Holds s old) {w : Int64} (last : old.getLast? = some w)
    (hx : L.recorded s = .ok (.version w)) :
    ∃ new, Adds L A ⟨m, r, false⟩ s old new := by
  obtain ⟨done, rest, cut⟩ := m.exists_cut L r.lock s w
  obtain ⟨database, -, -, completed⟩ := Migrations.execute_of_cut hm hx cut
  obtain ⟨others, calls, kinds⟩ := Migrations.exists_calls_of_cut hm hx cut
  have calls : Attempt.calls L ⟨m, r, false⟩ s = _ := calls
  have there : w ∈ old := List.mem_of_getLast? last
  have mem : ∀ u ∈ done ++ rest, u ∈ m.updates := fun u hu =>
    (List.mem_filter.mp (cut.pending ▸ hu)).1
  have ascending := Migrations.pending_ascending (v := w) ha.order.ascending
  rw [cut.pending, List.map_append] at ascending
  obtain ⟨above, ascending'⟩ := List.pairwise_cons.mp ascending
  have below : ∀ x ∈ old, x ≤ w := fun x hx => by
    obtain ⟨w', last', le⟩ := exists_last h.ascending hx
    rw [last] at last'
    cases last'
    exact le
  have tame : ∀ u ∈ done, A.Tame (u.2 r.lock (some u.1)) := fun u hu =>
    ha.updates u (mem u (List.mem_append_left rest hu))
  have cells : A.Shows s (some (old.map .integer)) :=
    (if_neg (List.ne_nil_of_mem there) : cellsOf old = _) ▸ h.shows
  have shows := hL.shows_lead tame cut.leads cells
    (VersionTable.greatest_of_ascending h.ascending last)
    (ascending.sublist (List.sublist_append_left (w :: done.map (·.1)) _))
  have ending := Migrations.shows_ending hL cut (fun u hu => (ha.updates u hu).within) ha.readies
    shows
  rw [← database] at ending
  have higher : ∀ x ∈ old, ∀ u ∈ done ++ rest, x < u.1 := fun x hx u hu =>
    Int64.lt_of_le_of_lt (below x hx)
      (above u.1 (by rw [← List.map_append]; exact List.mem_map_of_mem hu))
  refine ⟨done.map (·.1), ?_⟩
  constructor
  case before => exact h
  case after =>
    refine ⟨?_, List.pairwise_append.mpr ⟨h.ascending, ?_, fun x hx y hy => ?_⟩, fun v hv => ?_⟩
    · rw [cellsOf, if_neg (List.append_ne_nil_of_left_ne_nil (List.ne_nil_of_mem there) _),
        List.map_append]
      exact ending
    · exact ascending'.sublist (List.sublist_append_left ..)
    · obtain ⟨u, hu, rfl⟩ := List.mem_map.mp hy
      exact higher x hx u (List.mem_append_left rest hu)
    · rcases List.mem_append.mp hv with hv | hv
      · exact h.natural v hv
      · obtain ⟨u, hu, rfl⟩ := List.mem_map.mp hv
        exact Int64.le_trans (h.natural w there)
          (Int64.le_of_lt (higher w there u (List.mem_append_left rest hu)))
  case applied =>
    refine fun _ => ⟨others, ?_, ?_⟩
    · rw [calls, List.map_map]
      rfl
    · rcases kinds with ready | ⟨u, -, result, rfl⟩
      · exact .inl fun c hc => (ready c hc).1
      · exact .inr ⟨_, rfl, rfl⟩
  case above =>
    intro c hc v told x hx
    rw [calls] at hc
    rcases List.mem_append.mp hc with hc | hc
    · obtain ⟨u, hu, rfl⟩ := List.mem_map.mp hc
      cases told
      exact higher x hx u (List.mem_append_left rest hu)
    · rcases kinds with ready | ⟨u, hu, result, rfl⟩
      · cases (ready c hc).2.symm.trans told
      · obtain rfl := List.mem_singleton.mp hc
        cases told
        exact higher x hx u (List.mem_append_right done hu)
  case completed =>
    intro finished
    obtain rfl := completed finished
    rcases m.latest_le_or_mem w (h.natural w there) with le | pending
    · exact ⟨w, List.mem_append_left _ there, le⟩
    · rw [cut.pending, List.append_nil] at pending
      exact ⟨m.latest, List.mem_append_right _ pending, Int64.le_refl _⟩
  case settled =>
    rintro ⟨x, hx, le⟩
    have none : done ++ rest = [] := by
      refine List.eq_nil_iff_forall_not_mem.mpr fun u hu => ?_
      have latest := ha.order.le_latest (List.mem_map_of_mem (mem u hu))
      exact Int64.lt_irrefl (Int64.lt_of_lt_of_le (higher x hx u hu) (Int64.le_trans latest le))
    obtain ⟨rfl, rfl⟩ := List.append_eq_nil_iff.mp none
    refine ⟨rfl, fun c hc => ?_⟩
    rw [calls] at hc
    rcases kinds with ready | ⟨u, hu, -⟩
    · exact (ready c hc).1
    · cases hu

theorem adds_of_execute (hL : L.Lawful A) (hm : m.stage = .init)
    (ha : Orderly A ⟨m, r, false⟩) (h : A.Holds s old) :
    ∃ new, Adds L A ⟨m, r, false⟩ s old new := by
  rcases hx : L.recorded s with e | x
  · obtain ⟨database, -, -, -, completed⟩ := Migrations.execute_of_run (r := r) hm
      (Migrations.run_of_schema_error (Migrations.run_runSchema_error (p := Migrations.begun s) hx))
    obtain ⟨-, -, calls, -⟩ := Migrations.execute_of_run (m := m.watched) (r := r) hm
      (Migrations.run_of_schema_error (Migrations.run_runSchema_error (p := Migrations.begun s) hx))
    exact ⟨[], adds_nothing h database calls fun done => by cases completed done⟩
  · rcases h.recorded hL hx with ⟨rfl, rfl⟩ | ⟨w, last, rfl⟩
    · exact adds_of_missing hL hm ha h hx
    · exact adds_of_version hL hm ha h last hx

end Execute

section History

variable {L : Ledger σ} {A : Aspect σ δ}

/-- Attempts that leave the same behind and make the same calls add the same. -/
theorem Adds.congr {a b : Attempt σ ν} {s : σ} {old new : List Int64} (h : b.Adds L A s old new)
    (finish : a.finish L s = b.finish L s) (calls : a.calls L s = b.calls L s)
    (latest : a.migrations.latest = b.migrations.latest) : a.Adds L A s old new := by
  constructor
  case before => exact h.before
  case after => exact finish ▸ h.after
  case applied => exact calls ▸ h.applied
  case above => exact calls ▸ h.above
  case completed => exact finish ▸ latest ▸ h.completed
  case settled => exact calls ▸ latest ▸ h.settled

/-- Every attempt adds some versions above those that are there, or none. -/
theorem exists_adds (hL : L.Lawful A) {a : Attempt σ ν} (ha : a.Orderly A) {s : σ}
    {old : List Int64} (h : A.Holds s old) : ∃ new, a.Adds L A s old new := by
  by_cases accepted : a.Accepted
  · have opened : Orderly A ⟨a.opened, a.registry, false⟩ := by
      unfold opened
      split
      · exact ⟨⟨ha.order.ascending, ha.order.positive⟩, ha.inits, ha.updates, ha.readies⟩
      · exact ⟨ha.order, ha.inits, ha.updates, ha.readies⟩
    have latest : a.migrations.latest = a.opened.latest := by
      unfold Attempt.opened
      split <;> rfl
    obtain ⟨new, adds⟩ := adds_of_execute hL accepted.stage_opened opened h
    exact ⟨new, adds.congr (accepted.finish_eq L s) (accepted.calls_eq L s) latest⟩
  · obtain ⟨refused, calls⟩ := finish_of_not_accepted (L := L) (s := s) accepted
    refine ⟨[], adds_nothing h ?_ calls ?_⟩
    · rw [refused]
      rfl
    · rw [refused]
      exact Migrations.not_completed_refused _

/-- A history of attempts, each of which adds some versions. -/
theorem exists_adds_each (hL : L.Lawful A) {as : List (Attempt σ ν)} (has : ∀ a ∈ as, a.Orderly A)
    {s : σ} {old : List Int64} (h : A.Holds s old) :
    ∃ news : List (List Int64), news.length = as.length ∧
      A.Holds (after L as s) (old ++ news.flatten) ∧
      ∀ i (_ : i < as.length) (_ : i < news.length),
        as[i].Adds L A (after L (as.take i) s) (old ++ (news.take i).flatten) news[i] := by
  induction as generalizing s old with
  | nil => exact ⟨[], rfl, by simpa [after] using h, fun i hi => by cases hi⟩
  | cons a as ih =>
    obtain ⟨new, adds⟩ := exists_adds hL (has a List.mem_cons_self) h
    obtain ⟨news, length, holds, each⟩ :=
      ih (fun b hb => has b (List.mem_cons_of_mem a hb)) adds.after
    refine ⟨new :: news, congrArg (· + 1) length, by simpa [after] using holds, fun i hi hn => ?_⟩
    cases i with
    | zero => simpa [after] using adds
    | succ i => simpa [after] using each i (Nat.lt_of_succ_lt_succ hi) (Nat.lt_of_succ_lt_succ hn)

/-- What is true of a history of attempts that add some versions each. -/
structure ExactlyOnce (L : Ledger σ) (A : Aspect σ δ) (as : List (Attempt σ ν)) (s : σ)
    (news : List (List Int64)) : Prop where
  length : news.length = as.length
  /-- No version is committed twice. -/
  ascending : news.flatten.Pairwise (· < ·)
  adds : ∀ i (_ : i < as.length) (_ : i < news.length),
    as[i].Adds L A (after L (as.take i) s) (news.take i).flatten news[i]
  /-- Where there are versions, no init function is called. -/
  no_init : ∀ i (_ : i < as.length), (news.take i).flatten ≠ [] →
    ∀ c ∈ as[i].calls L (after L (as.take i) s), c.kind ≠ .init
  /-- After a run that came to its end, one with the same versions finds nothing to do. -/
  resumed : ∀ i j (_ : i < as.length) (_ : j < as.length) (_ : j < news.length), i < j →
    (as[i].finish L (after L (as.take i) s)).Completed →
    as[j].migrations.versions = as[i].migrations.versions →
    news[j] = [] ∧ (∀ c ∈ as[j].calls L (after L (as.take j) s), c.kind = .ready) ∧
      ∃ vs, A.Holds (after L (as.take j) s) vs ∧
        A.Holds (as[j].finish L (after L (as.take j) s)).database vs

/-- Over a history of attempts by orderly migrations, on a database that had no ledger, every
version is committed once. -/
theorem exactlyOnce (hL : L.Lawful A) {as : List (Attempt σ ν)} (has : ∀ a ∈ as, a.Orderly A)
    {s : σ} (hs : A.Shows s none) : ∃ news, ExactlyOnce L A as s news := by
  have fresh : A.Holds s [] := ⟨hs, List.Pairwise.nil, fun v hv => by cases hv⟩
  obtain ⟨news, length, holds, each⟩ := exists_adds_each hL has fresh
  have adds : ∀ i (_ : i < as.length) (_ : i < news.length),
      as[i].Adds L A (after L (as.take i) s) (news.take i).flatten news[i] := each
  refine ⟨news, length, holds.ascending, adds, fun i hi some c hc init => ?_,
    fun i j hi hj hj' lt completed same => ?_⟩
  · obtain ⟨last, calls, kinds⟩ := (adds i hi (length ▸ hi)).applied some
    rw [calls] at hc
    rcases List.mem_append.mp hc with hc | hc
    · obtain ⟨v, -, rfl⟩ := List.mem_map.mp hc
      cases init
    · rcases kinds with ready | ⟨c', rfl, update⟩
      · cases (ready c hc).symm.trans init
      · obtain rfl := List.mem_singleton.mp hc
        cases update.symm.trans init
  · -- The latest version was there after the first of the two runs, so it is there for the second.
    obtain ⟨w, hw, le⟩ := (adds i hi (length ▸ hi)).completed completed
    have there : w ∈ (news.take j).flatten := by
      refine (List.take_sublist_take_left (Nat.succ_le_of_lt lt)).flatten.mem ?_
      rw [List.take_succ_eq_append_getElem (length ▸ hi), List.flatten_append]
      simpa using hw
    have latest : as[j].migrations.latest ≤ w := by
      unfold Migrations.latest at le ⊢
      rwa [same]
    have again := adds j hj hj'
    obtain ⟨none, calls⟩ := again.settled ⟨w, there, latest⟩
    refine ⟨none, calls, _, again.before, ?_⟩
    have behind := again.after
    rwa [none, List.append_nil] at behind

end History

/-! ## Two histories -/

/-- An edition of migrations with some update functions, of which some fail. -/
def edition (us : List (Int64 × Except Failure Unit)) : Migrations Connection String :=
  { Migrations.empty with
    inits := [running "CREATE TABLE first (line TEXT)" (.ok ())]
    updates := us.map fun u =>
      (u.1, running "CREATE TABLE IF NOT EXISTS further (line TEXT)" u.2) }

theorem orderly_edition {us : List (Int64 × Except Failure Unit)} {again : Bool}
    (asc : (us.map (·.1)).Pairwise (· < ·)) (pos : ∀ u ∈ us, 0 < u.1) :
    Orderly Connection.aspect ⟨edition us, .empty .standard, again⟩ where
  order := by
    have versions : (edition us).versions = us.map (·.1) := by
      simp [Migrations.versions, edition, Function.comp_def]
    exact ⟨versions ▸ asc, versions ▸ List.forall_mem_map.mpr pos⟩
  inits f hf := by
    obtain rfl := List.mem_singleton.mp hf
    exact tame_running (by decide +kernel) (.ok ()) (.empty .standard) none
  updates u hu := by
    obtain ⟨v, -, rfl⟩ := List.mem_map.mp hu
    exact tame_running (by decide +kernel) v.2 (.empty .standard) (some v.1)
  readies f hf := by cases hf

/-- The first edition is run; the second one fails at its third version, and is run again without
its flaw. -/
def editions : List (Attempt Connection String) :=
  [⟨edition [(1, .ok ())], .empty .standard, false⟩,
    ⟨edition [(1, .ok ()), (2, .ok ()), (3, .error .notOpen)], .empty .standard, false⟩,
    ⟨edition [(1, .ok ()), (2, .ok ()), (3, .ok ())], .empty .standard, false⟩]

theorem exactlyOnce_editions :
    ∃ news, ExactlyOnce standardLedger Connection.aspect editions .blank news := by
  refine exactlyOnce standardLedger_lawful (fun a ha => ?_) shows_blank
  simp only [editions, List.mem_cons, List.not_mem_nil, or_false] at ha
  rcases ha with rfl | rfl | rfl
  · exact orderly_edition (by decide) (by decide)
  · exact orderly_edition (by decide) (by decide)
  · exact orderly_edition (by decide) (by decide)

/-! ## Versions that do not ascend -/

/-- A schema function that changes nothing. -/
def idle (note : String) : SchemaFunction Connection String :=
  fun _ _ c => { database := c, notes := [note], result := .ok () }

/-- Migrations with the greatest version there is, and one after it. -/
def overrun : Except Failure (Migrations Connection String) := do
  let m ← Migrations.empty.addInit (idle "init")
  let (_, m) ← m.addUpdate Int64.maxValue (idle "last")
  let (_, m) ← m.addUpdate 0 (idle "next")
  pure m

/-- After the greatest version comes the least one.  It is recorded, but it is of no use, so the
init function that has succeeded is called again. -/
theorem not_exactlyOnce_overrun : ∃ m, overrun = .ok m ∧
    let first := m.execute standardLedger (.empty .standard) .blank
    let second := first.migrations.reExecute standardLedger first.registry first.database
    m.versions = [Int64.maxValue, Int64.minValue] ∧
      (first.result.toOption.map fun x => (x.path, x.halted)) = some (some .init, false) ∧
      notesOf first.trace = ["init"] ∧
      (second.result.toOption.map fun x => (x.path, x.halted)) = some (some .init, false) ∧
      notesOf second.trace = ["init"] :=
  ⟨_, rfl, by decide +kernel⟩

end Attempt

end FilterStore
