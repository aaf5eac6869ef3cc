import Mathlib.Data.List.Induction
import FilterStore.Proofs.Migration.Kept

/-!
# Requests

Migrations are set up and run by requests: functions are registered, listeners are added, somebody
is found who handles failures, and the migrations are run on a database, for the first time or
again.  Requests come in any order.  Each is answered or refused, and leaves migrations for the next
one.

A run is accepted or refused as a whole; `Migrations.runs` lists those that were accepted, each with
the migrations as they were and the database it was given.
-/

namespace FilterStore.Migrations

variable {σ ν : Type}

/-- What can be asked of migrations. -/
inductive Request (σ ν : Type)
  | addInit (f : SchemaFunction σ ν)
  | addUpdate (version : Int64) (f : SchemaFunction σ ν)
  | addReady (f : ReadyFunction σ ν)
  | handleFailures
  | listen (listener : Nat)
  /-- A run, for the first time or again. -/
  | run (again : Bool) (r : Registry) (s : σ)

/-- What is given with a request to work on. -/
def Request.given : Request σ ν → Option (Registry × σ)
  | .run _ r s => some (r, s)
  | _ => none

/-- The stage in which a request can be met, if it cannot be met in all of them. -/
def Request.needs : Request σ ν → Option Stage
  | .addInit _ | .addUpdate .. | .addReady _ | .run false .. => some .init
  | .run true .. => some .done
  | .handleFailures | .listen _ => none

/-- How a request is refused that cannot be met in a stage. -/
def Request.refusal (stage : Stage) : Request σ ν → Option Failure
  | .addInit _ => some (.registrationClosed .init stage)
  | .addUpdate .. => some (.registrationClosed .update stage)
  | .addReady _ => some (.registrationClosed .ready stage)
  | .run false .. => some (.invalidState (.alreadyRun stage))
  | .run true .. => some (.invalidState (.notDone stage))
  | .handleFailures | .listen _ => none

/-- What a request is answered. -/
inductive Answer
  | accepted
  /-- An update function is registered under a version. -/
  | version (v : Int64)
  | report (x : MigrationReport)

/-- What a request leaves behind. -/
structure Response (σ ν : Type) where
  migrations : Migrations σ ν
  result : Except Failure Answer
  /-- The functions that were called, in order. -/
  calls : List Call
  /-- What was given, as it is left. -/
  left : Option (Registry × σ)

/-- Nothing is registered yet. -/
def fresh (table : String) (settings : MigrationConfig) : Migrations σ ν :=
  { empty with versionTable := table, settings }

/-- All migrations begin so. -/
theorem exists_fresh_of_ofConfig {c : Config} {m : Migrations σ ν} (h : ofConfig c = .ok m) :
    ∃ table, m = fresh table c.migration := by
  obtain ⟨n, named, rest⟩ := bind_eq_ok_iff.mp h
  obtain ⟨-, -, renamed⟩ := bind_eq_ok_iff.mp named
  cases renamed
  cases rest
  exact ⟨Text.trim c.versionTable, rfl⟩

/-- The functions that are registered. -/
def functions (m : Migrations σ ν) :
    List (SchemaFunction σ ν) × List (Int64 × SchemaFunction σ ν) × List (ReadyFunction σ ν) :=
  (m.inits, m.updates, m.readies)

/-- A request that is refused leaves the migrations, and what was given, as they are. -/
def refusing (m : Migrations σ ν) (q : Request σ ν) (e : Failure) : Response σ ν :=
  { migrations := m, result := .error e, calls := [], left := q.given }

/-- Something is registered, or refused. -/
def registering (m : Migrations σ ν) (q : Request σ ν) :
    Except Failure (Answer × Migrations σ ν) → Response σ ν
  | .ok (answer, m') => { migrations := m', result := .ok answer, calls := [], left := q.given }
  | .error e => m.refusing q e

/-- Answers a request. -/
def respond (L : Ledger σ) (m : Migrations σ ν) (q : Request σ ν) : Response σ ν :=
  match q with
  | .addInit f => m.registering q ((m.addInit f).map (Answer.accepted, ·))
  | .addUpdate version f =>
    m.registering q ((m.addUpdate version f).map fun (v, m) => (Answer.version v, m))
  | .addReady f => m.registering q ((m.addReady f).map (Answer.accepted, ·))
  | .handleFailures => m.registering q (.ok (.accepted, m.handleFailures))
  | .listen listener => m.registering q (.ok (.accepted, m.listen listener))
  | .run again r s =>
    let a : Attempt σ ν := ⟨m, r, again⟩
    { migrations := (a.finish L s).migrations
      result := (a.finish L s).result.map .report
      calls := a.calls L s
      left := some ((a.finish L s).registry, (a.finish L s).database) }

/-- The migrations behind some requests. -/
def after (L : Ledger σ) (m : Migrations σ ν) (qs : List (Request σ ν)) : Migrations σ ν :=
  qs.foldl (fun m q => (m.respond L q).migrations) m

/-- The run that a request is, if it is accepted. -/
def begins (m : Migrations σ ν) : Request σ ν → List (Attempt σ ν × σ)
  | .run again r s =>
    if (⟨m, r, again⟩ : Attempt σ ν).Accepted then [(⟨m, r, again⟩, s)] else []
  | _ => []

/-- The runs among some requests that were accepted, in order. -/
def runs (L : Ledger σ) : Migrations σ ν → List (Request σ ν) → List (Attempt σ ν × σ)
  | _, [] => []
  | m, q :: qs => m.begins q ++ runs L (m.respond L q).migrations qs

variable {L : Ledger σ} {m : Migrations σ ν}

theorem after_append (L : Ledger σ) (m : Migrations σ ν) (ps qs : List (Request σ ν)) :
    m.after L (ps ++ qs) = (m.after L ps).after L qs := List.foldl_append

theorem runs_append (L : Ledger σ) (m : Migrations σ ν) (ps qs : List (Request σ ν)) :
    runs L m (ps ++ qs) = runs L m ps ++ runs L (m.after L ps) qs := by
  induction ps generalizing m with
  | nil => rfl
  | cons p ps ih =>
    show m.begins p ++ runs L _ (ps ++ qs) = m.begins p ++ runs L _ ps ++ _
    rw [ih, List.append_assoc]
    rfl

/-- What holds of the migrations and the runs behind some requests, if every request keeps it. -/
theorem after_induct {P : Migrations σ ν → List (Attempt σ ν × σ) → Prop} (start : P m [])
    (step : ∀ n xs q, P n xs → P (n.respond L q).migrations (xs ++ n.begins q))
    (qs : List (Request σ ν)) : P (m.after L qs) (runs L m qs) := by
  induction qs using List.reverseRecOn with
  | nil => exact start
  | append_singleton qs q ih =>
    rw [after_append, runs_append]
    have last : runs L (m.after L qs) [q] = (m.after L qs).begins q := List.append_nil _
    rw [last]
    exact step _ _ q ih

/-! ## What requests leave alone -/

section Registering

variable {f : SchemaFunction σ ν} {n : Migrations σ ν}

theorem eq_of_addInit (h : m.addInit f = .ok n) : n = { m with inits := m.inits ++ [f] } := by
  obtain ⟨-, -, added⟩ := bind_eq_ok_iff.mp h
  exact (Except.ok.inj added).symm

theorem eq_of_addUpdate {version w : Int64} (h : m.addUpdate version f = .ok (w, n)) :
    n = { m with updates := m.updates ++ [(w, f)] } := by
  obtain ⟨-, -, rest⟩ := bind_eq_ok_iff.mp h
  obtain ⟨v, -, added⟩ := bind_eq_ok_iff.mp rest
  cases added
  rfl

theorem eq_of_addReady {f : ReadyFunction σ ν} (h : m.addReady f = .ok n) :
    n = { m with readies := m.readies ++ [f] } := by
  obtain ⟨-, -, added⟩ := bind_eq_ok_iff.mp h
  exact (Except.ok.inj added).symm

/-- What is seen of migrations stays the same if it does when something is registered. -/
theorem view_registering {α : Type} (view : Migrations σ ν → α) {q : Request σ ν}
    {x : Except Failure (Answer × Migrations σ ν)} (h : ∀ y, x = .ok y → view y.2 = view m) :
    view (m.registering q x).migrations = view m := by
  rcases x with e | y
  · rfl
  · exact h y rfl

end Registering

theorem functions_execute (m : Migrations σ ν) (L : Ledger σ) (r : Registry) (s : σ) :
    (m.execute L r s).migrations.functions = m.functions := by
  by_cases hm : m.stage = .init
  · rcases run : (m.run L r.lock).run (begun s) with ⟨e | ⟨⟩, p⟩
    · rw [execute_of_error hm run]
      rfl
    · rw [execute_of_ok hm run]
      rfl
  · rw [execute_of_stage hm]
    rfl

theorem functions_finish (L : Ledger σ) (a : Attempt σ ν) (s : σ) :
    (a.finish L s).migrations.functions = a.migrations.functions := by
  by_cases ha : a.Accepted
  · rw [ha.finish_eq, functions_execute]
    unfold Attempt.opened
    split <;> rfl
  · rw [(Attempt.finish_of_not_accepted ha).1]
    rfl

/-! ## Requests that are refused -/

/-- In a stage in which it cannot be met, a request is refused. -/
theorem respond_of_refusal {q : Request σ ν} {e : Failure} (h : q.refusal m.stage = some e)
    (elsewhere : q.needs ≠ some m.stage) : m.respond L q = m.refusing q e := by
  have closed : m.stage ≠ .init →
      ∀ kind, m.ensureOpen kind = .error (.registrationClosed kind m.stage) :=
    fun started kind => if_neg fun fresh => started fresh.1
  cases q with
  | addInit f =>
    cases h
    simp only [respond, addInit, closed fun fresh => elsewhere (congrArg some fresh.symm)]
    rfl
  | addUpdate version f =>
    cases h
    simp only [respond, addUpdate, closed fun fresh => elsewhere (congrArg some fresh.symm)]
    rfl
  | addReady f =>
    cases h
    simp only [respond, addReady, closed fun fresh => elsewhere (congrArg some fresh.symm)]
    rfl
  | run again r s =>
    have refused : ¬(⟨m, r, again⟩ : Attempt σ ν).Accepted := by
      cases again <;> exact fun accepted => elsewhere (congrArg some accepted.symm)
    obtain ⟨finish, calls⟩ := Attempt.finish_of_not_accepted (L := L) (s := s) refused
    simp only [respond, finish, calls]
    cases again <;> cases h <;> rfl
  | handleFailures | listen _ => cases h

/-- A run begins only in the stage that it needs. -/
theorem begins_of_elsewhere {q : Request σ ν} (elsewhere : q.needs ≠ some m.stage) :
    m.begins q = [] := by
  cases q with
  | run again r s =>
    refine if_neg ?_
    cases again <;> exact fun accepted => elsewhere (congrArg some accepted.symm)
  | _ => rfl

end FilterStore.Migrations
