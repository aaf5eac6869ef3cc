import FilterStore.Proofs.Migration.Request

/-!
# The life of migrations

Functions are registered, then the migrations are run, and once they are done they can be run again
and again, until a run fails.  That is all there is to the stages, whatever is asked for in between:

* from the first run on, the functions stay as they are;
* ready functions are called only where the schema is settled;
* the migrations are done exactly if the last of the runs has come to its end;
* after a run that has failed, everything that could change something is refused.

The argument is one invariant (`Migrations.Standing`): the stage is the one in which the last run
has ended, and all runs before it came to their ends.  Every request keeps it.  A request that needs
another stage is refused; otherwise there was no run yet, or the last one was done.
-/

namespace FilterStore.Migrations

variable {σ ν : Type} {L : Ledger σ} {m : Migrations σ ν} {xs : List (Attempt σ ν × σ)}

/-- What is not a run is no step of the life of migrations. -/
theorem stage_respond {q : Request σ ν} (h : ∀ again r s, q ≠ .run again r s) :
    (m.respond L q).migrations.stage = m.stage ∧
      (m.respond L q).migrations.rerunning = m.rerunning := by
  let view (m : Migrations σ ν) := (m.stage, m.rerunning)
  suffices same : view (m.respond L q).migrations = view m from Prod.mk.inj same
  cases q with
  | addInit f =>
    refine view_registering view fun y hy => ?_
    obtain ⟨n, added, rfl⟩ := map_eq_ok_iff.mp hy
    rw [eq_of_addInit added]
  | addUpdate version f =>
    refine view_registering view fun y hy => ?_
    obtain ⟨⟨w, n⟩, added, rfl⟩ := map_eq_ok_iff.mp hy
    simp only [eq_of_addUpdate added, view]
  | addReady f =>
    refine view_registering view fun y hy => ?_
    obtain ⟨n, added, rfl⟩ := map_eq_ok_iff.mp hy
    rw [eq_of_addReady added]
  | handleFailures | listen _ => rfl
  | run again r s => exact absurd rfl (h again r s)

/-! ## The invariant -/

/-- How migrations stand behind some runs. -/
structure Standing (L : Ledger σ) (m : Migrations σ ν) (xs : List (Attempt σ ν × σ)) : Prop where
  fresh : xs = [] → m.stage = .init ∧ m.rerunning = false
  accepted : ∀ x ∈ xs, x.1.Accepted ∧ (x.1.again = false → x.1.migrations.rerunning = false)
  functions : ∀ x ∈ xs, m.functions = x.1.migrations.functions
  stage : ∀ x ys, xs = ys ++ [x] → m.stage = (x.1.finish L x.2).migrations.stage
  completed : ∀ x ys, xs = ys ++ [x] → ∀ y ∈ ys, (y.1.finish L y.2).Completed

theorem standing_fresh (L : Ledger σ) (table : String) (settings : MigrationConfig) :
    Standing L (fresh table settings : Migrations σ ν) [] where
  fresh _ := ⟨rfl, rfl⟩
  accepted _ hx := absurd hx List.not_mem_nil
  functions _ hx := absurd hx List.not_mem_nil
  stage x ys last := absurd last.symm (by simp)
  completed x ys last := absurd last.symm (by simp)

/-- Behind a run that has failed, no stage is reached that a request could need. -/
theorem Standing.stage_of_failed (h : Standing L m xs) {x : Attempt σ ν × σ} (hx : x ∈ xs)
    (failed : ¬(x.1.finish L x.2).Completed) : m.stage ≠ .init ∧ m.stage ≠ .done := by
  obtain ⟨ys, last, rfl⟩ := (List.eq_nil_or_concat xs).resolve_left (List.ne_nil_of_mem hx)
  rw [List.concat_eq_append] at *
  rcases List.mem_append.mp hx with before | now
  · exact absurd (h.completed last ys rfl x before) failed
  · obtain rfl := List.mem_singleton.mp now
    obtain ⟨started, done⟩ := (h.accepted x hx).1.stage_finish L x.2
    rw [h.stage x ys rfl]
    exact ⟨started, fun ended => failed (done.mp ended)⟩

/-- Behind a run nothing is registered any more. -/
theorem Standing.stage_of_mem (h : Standing L m xs) {x : Attempt σ ν × σ} (hx : x ∈ xs) :
    m.stage ≠ .init := by
  obtain ⟨ys, last, rfl⟩ := (List.eq_nil_or_concat xs).resolve_left (List.ne_nil_of_mem hx)
  rw [List.concat_eq_append] at *
  rw [h.stage last ys rfl]
  exact ((h.accepted last (List.mem_append_right _ List.mem_cons_self)).1.stage_finish L _).1

/-- Where the migrations are as before, or no run was made yet, they stand as before. -/
theorem Standing.congr (h : Standing L m xs) {n : Migrations σ ν} (stage : n.stage = m.stage)
    (rerunning : n.rerunning = m.rerunning) (functions : xs ≠ [] → n.functions = m.functions) :
    Standing L n xs where
  fresh none := stage ▸ rerunning ▸ h.fresh none
  accepted := h.accepted
  functions x hx := (functions (List.ne_nil_of_mem hx)).trans (h.functions x hx)
  stage x ys last := stage.trans (h.stage x ys last)
  completed := h.completed

/-- A run that is accepted is the last one. -/
theorem Standing.run (h : Standing L m xs) {again : Bool} {r : Registry} {s : σ}
    (ha : (⟨m, r, again⟩ : Attempt σ ν).Accepted) :
    Standing L (Attempt.finish L ⟨m, r, again⟩ s).migrations (xs ++ [(⟨m, r, again⟩, s)]) := by
  have functions : (Attempt.finish L ⟨m, r, again⟩ s).migrations.functions = m.functions :=
    functions_finish L ⟨m, r, again⟩ s
  have all : ∀ x ∈ xs, (x.1.finish L x.2).Completed := by
    intro x hx
    by_contra failed
    obtain ⟨started, unfinished⟩ := h.stage_of_failed hx failed
    cases again
    · exact started ha
    · exact unfinished ha
  constructor
  case fresh => exact fun none => absurd none (List.append_ne_nil_of_right_ne_nil _ (by simp))
  case accepted =>
    intro x hx
    rcases List.mem_append.mp hx with before | now
    · exact h.accepted x before
    · obtain rfl := List.mem_singleton.mp now
      refine ⟨ha, fun first => ?_⟩
      obtain rfl : again = false := first
      by_cases none : xs = []
      · exact (h.fresh none).2
      · obtain ⟨y, hy⟩ := List.exists_mem_of_ne_nil xs none
        exact absurd ha (h.stage_of_mem hy)
  case functions =>
    intro x hx
    rcases List.mem_append.mp hx with before | now
    · exact functions.trans (h.functions x before)
    · obtain rfl := List.mem_singleton.mp now
      exact functions
  case stage =>
    intro x ys last
    obtain ⟨rfl, same⟩ := List.append_inj' last rfl
    cases same
    rfl
  case completed =>
    intro x ys last
    obtain ⟨rfl, -⟩ := List.append_inj' last rfl
    exact all

/-- Every request keeps the invariant. -/
theorem Standing.respond (h : Standing L m xs) (q : Request σ ν) :
    Standing L (m.respond L q).migrations (xs ++ m.begins q) := by
  by_cases elsewhere : q.needs ≠ some m.stage
  · rw [begins_of_elsewhere elsewhere, List.append_nil]
    rcases refused : q.refusal m.stage with _ | e
    · cases q with
      | handleFailures | listen _ => exact h.congr rfl rfl fun _ => rfl
      | run again r s => cases again <;> cases refused
      | _ => cases refused
    · rw [respond_of_refusal refused elsewhere]
      exact h
  · have here : q.needs = some m.stage := not_not.mp elsewhere
    cases q with
    | run again r s =>
      have accepted : (⟨m, r, again⟩ : Attempt σ ν).Accepted := by
        cases again <;> exact (Option.some.inj here).symm
      have begun : m.begins (.run again r s) = [(⟨m, r, again⟩, s)] := if_pos accepted
      rw [begun]
      exact h.run accepted
    | handleFailures | listen _ => cases here
    | addInit _ | addUpdate _ _ | addReady _ =>
      have none : xs = [] := List.eq_nil_iff_forall_not_mem.mpr fun x hx =>
        h.stage_of_mem hx (Option.some.inj here).symm
      show Standing L _ (xs ++ [])
      rw [List.append_nil]
      exact h.congr (stage_respond nofun).1 (stage_respond nofun).2 fun some => absurd none some

/-! ## The life of migrations -/

/-- What is true of migrations behind some requests, and of the runs among these. -/
structure Lifecycle (L : Ledger σ) (m : Migrations σ ν) (qs : List (Request σ ν)) : Prop where
  /-- The functions are those that every run has found, the first one as well. -/
  frozen : ∀ x ∈ runs L m qs, (m.after L qs).functions = x.1.migrations.functions
  /-- Where a ready function was called, the schema is settled. -/
  waits : ∀ x ∈ runs L m qs, (∃ c ∈ x.1.calls L x.2, c.kind = .ready) →
    ∃ y t, x.1.Settles L x.2 y t
  /-- A run comes to its end, as it reports, if it settles the schema and all ready functions that
  it has to call succeed. -/
  completed_iff : ∀ x ∈ runs L m qs, (x.1.finish L x.2).Completed ↔ x.1.RunsThrough L x.2
  done_iff : (m.after L qs).stage = .done ↔
    ∃ x, (runs L m qs).getLast? = some x ∧ x.1.RunsThrough L x.2
  /-- After a run that has failed, everything is refused but to listen and to handle failures. -/
  stuck : (∃ x ∈ runs L m qs, ¬(x.1.finish L x.2).Completed) →
    ∀ q e, q.refusal (m.after L qs).stage = some e →
      (m.after L qs).respond L q = (m.after L qs).refusing q e

/-- **The life of migrations.**  Whatever is asked for, in any order, on any databases and with
functions that succeed or fail: behind the first run the functions are fixed, ready functions wait
for the schema, the migrations are done exactly if the last run has come to its end, and nothing
goes on after a run that has failed. -/
theorem lifecycle (L : Ledger σ) (table : String) (settings : MigrationConfig)
    (qs : List (Request σ ν)) : Lifecycle L (fresh table settings) qs := by
  have standing : Standing L (after L (fresh table settings) qs)
      (runs L (fresh table settings) qs) :=
    after_induct (P := Standing L) (standing_fresh L table settings) (fun _ _ q h => h.respond q) qs
  have completed : ∀ x ∈ runs L (fresh table settings) qs,
      (x.1.finish L x.2).Completed ↔ x.1.RunsThrough L x.2 := fun x hx =>
    let ⟨accepted, first⟩ := standing.accepted x hx
    accepted.completed_iff first
  constructor
  case frozen => exact standing.functions
  case waits =>
    rintro x hx ⟨c, hc, ready⟩
    obtain ⟨accepted, first⟩ := standing.accepted x hx
    exact accepted.exists_settles first hc ready
  case completed_iff => exact completed
  case done_iff =>
    rcases List.eq_nil_or_concat (runs L (fresh table settings) qs) with none | ⟨ys, x, last⟩
    · rw [(standing.fresh none).1, none]
      exact ⟨nofun, fun ⟨x, absent, _⟩ => nomatch absent⟩
    · rw [List.concat_eq_append] at last
      have hx : x ∈ runs L (fresh table settings) qs := by simp [last]
      rw [standing.stage x ys last, last, ((standing.accepted x hx).1.stage_finish L x.2).2,
        completed x hx]
      simp
  case stuck =>
    rintro ⟨x, hx, failed⟩ q e refused
    obtain ⟨started, unfinished⟩ := standing.stage_of_failed hx failed
    refine respond_of_refusal refused fun here => ?_
    cases q with
    | run again r s =>
      cases again
      · exact started (Option.some.inj here).symm
      · exact unfinished (Option.some.inj here).symm
    | handleFailures | listen _ => cases here
    | _ => exact started (Option.some.inj here).symm

/-- Where a version is recorded, an init function that fails is not called.  It is when the
migrations are run again on a database without one, and then they are never done again. -/
example :
    let L : Ledger Recorded :=
      { recorded := .ok, create := pure (), append := fun _ => pure (), drop := pure ()
        bounds := { begin := pure (), commit := pure (), undo := pure () } }
    let m : Migrations Recorded Unit := fresh standardVersionTable .standard
    let r := Registry.empty .standard
    let qs := [.addInit fun _ _ s => { database := s, notes := [], result := .error .notOpen },
      .run false r (.version 0), .run true r .missing, .run true r (.version 0)]
    ((runs L m (qs.take 2)).length, (m.after L (qs.take 2)).stage) = (1, .done) ∧
      ((runs L m qs).length, (m.after L qs).stage) = (2, .execute) := by
  decide

end FilterStore.Migrations
