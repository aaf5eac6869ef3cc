import FilterStore.Proofs.Schema.Edit
import FilterStore.Schema.Revision

/-!
# A failed change is none

A registry that is changed in place is written to in steps, and any step may fail: a column has an
invalid name after others have been put in, an index names a column that is missing after the
constraints have been replaced, and a table that is registered again has lost its columns and its
triggers before the new ones are looked at.  All the same a change that fails leaves the registry
exactly as it was.

Two relations carry the argument.  Work *reaches* the outcome of a function when it succeeds and
fails as the function does, and leaves the function's registry if it succeeds; of what it leaves
otherwise nothing is said.  That goes through sequences of steps (`reaches_bind`).  Work *settles*
an outcome when it moreover leaves the registry as it was where the function fails.  Checking before
writing settles (`settles_ask`), and so does work on a copy (`settles_staged`).  The functions meant
are those of `Registry.mutate`, so what is proved of these holds of a registry that is changed in
place.

A registry that is locked answers every change with an error, and so stays the same for good.
-/

namespace FilterStore

namespace Revision

/-- What work is to leave: the new registry, or the old one beside an error. -/
def settled (r : Registry) : Except Error Registry → Except Error Unit × Registry
  | .ok r' => (.ok (), r')
  | .error e => (.error e, r)

/-- Work succeeds with a registry, or fails with an error wherever it has come to. -/
inductive Reaches : Except Error Unit × Registry → Except Error Registry → Prop
  | done (r : Registry) : Reaches (.ok (), r) (.ok r)
  | failed (e : Error) (r : Registry) : Reaches (.error e, r) (.error e)

section Steps

variable {α β : Type} {r : Registry}

theorem run_ask (question : Registry → Except Error α) (r : Registry) :
    (ask question).run r = (question r, r) := rfl

theorem run_write (f : Registry → Registry) (r : Registry) : (write f).run r = (.ok (), f r) := rfl

theorem reaches_settled (r : Registry) (outcome : Except Error Registry) :
    Reaches (settled r outcome) outcome := by
  cases outcome with
  | ok r' => exact .done r'
  | error e => exact .failed e r

/-- A question comes first: the work goes on with its answer, or fails where it stands. -/
theorem reaches_ask {question : Registry → Except Error α} {work : α → Revision Unit}
    {f : α → Except Error Registry} (h : ∀ a, question r = .ok a → Reaches ((work a).run r) (f a)) :
    Reaches ((ask question >>= work).run r) (question r >>= f) := by
  rw [run_bind, run_ask]
  cases answer : question r with
  | error e => exact .failed e r
  | ok a => exact h a answer

/-- One piece of work after the other. -/
theorem reaches_bind {work next : Revision Unit} {outcome : Except Error Registry}
    {f : Registry → Except Error Registry} (h : Reaches (work.run r) outcome)
    (hnext : ∀ r', Reaches (next.run r') (f r')) :
    Reaches ((work >>= fun _ => next).run r) (outcome >>= f) := by
  rw [run_bind]
  cases result : work.run r with
  | mk answer s =>
    rw [result] at h
    cases h with
    | done => exact hnext s
    | failed e => exact .failed e s

theorem reaches_forM {step : β → Revision Unit} {f : Registry → β → Except Error Registry}
    (h : ∀ r b, Reaches ((step b).run r) (f r b)) (bs : List β) (r : Registry) :
    Reaches ((bs.forM step).run r) (bs.foldlM f r) := by
  induction bs generalizing r with
  | nil => exact .done r
  | cons b bs ih =>
    rw [run_forM_cons, List.foldlM_cons]
    exact reaches_bind (h r b) ih

/-- Work that checks first and fails there leaves the registry as it is. -/
theorem settles_ask {question : Registry → Except Error α} {work : α → Revision Unit}
    {f : α → Except Error Registry}
    (h : ∀ a, question r = .ok a → (work a).run r = settled r (f a)) :
    (ask question >>= work).run r = settled r (question r >>= f) := by
  rw [run_bind, run_ask]
  cases answer : question r with
  | error e => rfl
  | ok a => exact h a answer

/-- **Work on a copy that fails leaves the registry as it is.** -/
theorem settles_staged {work : Revision Unit} {outcome : Except Error Registry}
    (h : Reaches (work.run r) outcome) : (staged work).run r = settled r outcome := by
  -- The work is done once, on the registry as it is.
  have once : (staged work).run r = (staged (ExceptT.mk fun _ => work.run r)).run r := rfl
  rw [once]
  cases result : work.run r with
  | mk answer copy =>
    rw [result] at h
    cases h with
    | done => rfl
    | failed e => rfl

end Steps

/-! ## The steps of a change -/

section Changes

variable (r : Registry) (name table : String)

theorem settles_addTrigger (sql : String) :
    (addTrigger name table sql).run r = settled r (r.addTrigger name table sql) := by
  apply settles_ask
  intro _ named
  apply settles_ask
  intro t found
  apply settles_ask
  intro _ unlocked
  rfl

theorem reaches_addTrigger (sql : String) :
    Reaches ((addTrigger name table sql).run r) (r.addTrigger name table sql) := by
  rw [settles_addTrigger]
  exact reaches_settled r (r.addTrigger name table sql)

theorem settles_addIndex (columns : List String) (unique : Bool) :
    (addIndex name table columns unique).run r =
      settled r (r.addIndex name table columns unique) := by
  apply settles_ask
  intro _ named
  apply settles_ask
  intro _ unlocked
  split
  · rfl
  · apply settles_ask
    intro _ checked
    apply settles_ask
    intro t found
    rfl

theorem reaches_addIndex (columns : List String) (unique : Bool) :
    Reaches ((addIndex name table columns unique).run r)
      (r.addIndex name table columns unique) := by
  rw [settles_addIndex]
  exact reaches_settled r (r.addIndex name table columns unique)

theorem reaches_putColumn (c : ColumnDefinition) :
    Reaches ((putColumn table c).run r) (r.putColumn table c) := by
  apply reaches_ask
  intro _ named
  apply reaches_ask
  intro t found
  simp only [run_bind, run_get, run_write]
  split
  · exact reaches_addTrigger _ _ _ _
  · exact .done _

theorem reaches_putColumns (columns : List ColumnDefinition) :
    Reaches ((columns.forM (putColumn table)).run r) (r.putColumns table columns) :=
  reaches_forM (fun r c => reaches_putColumn r table c) columns r

theorem reaches_replaceConstraints (constraints : List TableConstraint) :
    Reaches ((replaceConstraints table constraints).run r)
      (r.replaceConstraints table constraints) := by
  apply reaches_ask
  intro t found
  rw [run_bind, run_write]
  apply reaches_forM
  intro r c
  cases c with
  | sql text => exact .done r
  | index name columns unique => exact reaches_addIndex r name table columns unique

end Changes

/-! ## Whole changes -/

/-- A mutation, carried out in place. -/
def of : Mutation → Revision Unit
  | .addTable name columns constraints => addTable name columns constraints
  | .setColumns table columns => setColumns table columns
  | .setConstraints table constraints => setConstraints table constraints
  | .addIndex name table columns unique => addIndex name table columns unique
  | .addTrigger name table sql => addTrigger name table sql
  | .lock => lock

/-- **A mutation that is carried out in place does what the mutation says, and nothing at all if it
fails.** -/
theorem run_of (m : Mutation) (r : Registry) : (of m).run r = settled r (r.mutate m) := by
  cases m with
  | addTable name columns constraints =>
    apply settles_ask
    intro _ named
    apply settles_ask
    intro _ unlocked
    apply settles_staged
    rw [replaceTable, run_bind, run_write]
    simp only [run_bind (write _), run_write]
    apply reaches_bind (reaches_putColumns _ _ columns)
    intro s
    apply reaches_ask
    intro t found
    rw [run_bind, run_write]
    exact reaches_replaceConstraints _ _ constraints
  | setColumns table columns =>
    apply settles_ask
    intro t found
    apply settles_ask
    intro _ unlocked
    exact settles_staged (reaches_putColumns r _ columns)
  | setConstraints table constraints =>
    apply settles_ask
    intro t found
    apply settles_ask
    intro _ unlocked
    exact settles_staged (reaches_replaceConstraints r _ constraints)
  | addIndex name table columns unique => exact settles_addIndex r name table columns unique
  | addTrigger name table sql => exact settles_addTrigger r name table sql
  | lock => rfl

end Revision

/-! ## Errors and locks -/

namespace Registry

variable {r : Registry}

/-- The registry after mutations that are carried out on it, whether they succeed or fail. -/
def inPlace (r : Registry) (ms : List Mutation) : Registry :=
  ms.foldl (fun r m => ((Revision.of m).run r).2) r

theorem inPlace_append (r : Registry) (ms later : List Mutation) :
    r.inPlace (ms ++ later) = (r.inPlace ms).inPlace later :=
  List.foldl_append

/-- Carrying mutations out in place and keeping what they answer is the same. -/
theorem inPlace_eq (r : Registry) (ms : List Mutation) : r.inPlace ms = ms.foldl perform r := by
  have step : (fun r m => ((Revision.of m).run r).2) = perform := by
    funext r m
    rw [Revision.run_of, perform]
    cases r.mutate m <;> rfl
  rw [inPlace, step]

/-- Every change asks whether the registry is locked. -/
theorem exists_error_of_locked (h : r.locked = true) {m : Mutation} (hm : m ≠ .lock) :
    ∃ e, r.mutate m = .error e := by
  cases result : r.mutate m with
  | error e => exact ⟨e, rfl⟩
  | ok r' =>
    have unlocked : r.locked = false := by
      cases m with
      | addTable name columns constraints =>
        simp only [mutate, addTable, bind_eq_ok_iff] at result
        obtain ⟨_, -, _, unlocked, -⟩ := result
        exact ensureUnlocked_eq_ok_iff.mp unlocked
      | setColumns table columns =>
        simp only [mutate, setColumns, bind_eq_ok_iff] at result
        obtain ⟨_, -, _, unlocked, -⟩ := result
        exact ensureUnlocked_eq_ok_iff.mp unlocked
      | setConstraints table constraints =>
        simp only [mutate, setConstraints, bind_eq_ok_iff] at result
        obtain ⟨_, -, _, unlocked, -⟩ := result
        exact ensureUnlocked_eq_ok_iff.mp unlocked
      | addIndex name table columns unique =>
        simp only [mutate, addIndex, bind_eq_ok_iff] at result
        obtain ⟨_, -, _, unlocked, -⟩ := result
        exact ensureUnlocked_eq_ok_iff.mp unlocked
      | addTrigger name table sql =>
        simp only [mutate, addTrigger, bind_eq_ok_iff] at result
        obtain ⟨_, -, _, -, _, unlocked, -⟩ := result
        exact ensureUnlocked_eq_ok_iff.mp unlocked
      | lock => exact absurd rfl hm
    rw [h] at unlocked
    cases unlocked

/-- Locking a locked registry changes nothing either. -/
theorem perform_of_locked (h : r.locked = true) (m : Mutation) : r.perform m = r := by
  by_cases hm : m = .lock
  · have locked : r.lock = r := by
      rw [lock, ← h]
    subst hm
    exact locked
  · obtain ⟨e, failed⟩ := exists_error_of_locked h hm
    rw [perform, failed]

theorem inPlace_of_locked (h : r.locked = true) (ms : List Mutation) : r.inPlace ms = r := by
  rw [inPlace_eq]
  induction ms with
  | nil => rfl
  | cons m ms ih => rw [List.foldl_cons, perform_of_locked h, ih]

/-- Once locked, a registry is locked. -/
theorem locked_inPlace {ms : List Mutation} (h : .lock ∈ ms) : (r.inPlace ms).locked = true := by
  obtain ⟨before, after, rfl⟩ := List.append_of_mem h
  have here : ((r.inPlace before).inPlace [.lock]).locked = true := rfl
  rw [List.append_cons, inPlace_append, inPlace_append, inPlace_of_locked here, here]

/-- **A mutation that fails leaves the registry exactly as it was, and once it is locked every
mutation fails, so that nothing changes it any more.**  This is about a registry that is changed in
place, where a mutation that fails has written to it, or to a copy, as far as it came.  Setting one
column is setting a list of columns. -/
theorem unchanged_of_error (options : RegistryOptions) (ms : List Mutation) :
    let r := (empty options).inPlace ms
    (∀ m e r', (Revision.of m).run r = (.error e, r') → r' = r) ∧
      (.lock ∈ ms →
        (∀ m, m ≠ .lock → ∃ e, (Revision.of m).run r = (.error e, r)) ∧
          ∀ later, (empty options).inPlace (ms ++ later) = r) := by
  intro r
  refine ⟨?_, fun locks => ⟨?_, ?_⟩⟩
  · intro m e r' failed
    rw [Revision.run_of] at failed
    cases result : r.mutate m with
    | ok s =>
      rw [result] at failed
      cases failed
    | error e' =>
      rw [result] at failed
      cases failed
      rfl
  · intro m change
    have locked : r.locked = true := locked_inPlace locks
    obtain ⟨e, failed⟩ := exists_error_of_locked locked change
    refine ⟨e, ?_⟩
    rw [Revision.run_of, failed]
    rfl
  · intro later
    rw [inPlace_append]
    exact inPlace_of_locked (locked_inPlace locks) later

/-- Users with an index on their cities. -/
def indexed : List Mutation := [.addTable "user" users.columns [.index "user_city" ["city"] true]]

/-- The same table without the cities, but with the index on them. -/
def narrowed : Mutation :=
  .addTable "user" [.ofParts "age" "INTEGER" ""] [.index "user_city" ["city"] true]

theorem unchanged_of_narrowed :
    (Revision.of narrowed).run ((empty .standard).inPlace indexed) =
        (.error (.unknownColumn "user" "city"), (empty .standard).inPlace indexed) ∧
      Mutation.lock ∈ indexed ++ [.lock] ∧
        (empty .standard).inPlace (indexed ++ [.lock] ++ [narrowed, .lock]) =
          (empty .standard).inPlace (indexed ++ [.lock]) := by
  have failed : ((Revision.of narrowed).run ((empty .standard).inPlace indexed)).1 =
      .error (.unknownColumn "user" "city") := by
    rfl
  have unchanged := (unchanged_of_error .standard indexed).1 narrowed _ _ (Prod.ext failed rfl)
  have locks : Mutation.lock ∈ indexed ++ [.lock] := List.mem_concat_self
  have fixed := ((unchanged_of_error .standard (indexed ++ [.lock])).2 locks).2 [narrowed, .lock]
  exact ⟨Prod.ext failed unchanged, locks, fixed⟩

/-- Without the copy the cities would be gone. -/
example :
    ((Revision.replaceTable "user" [.ofParts "age" "INTEGER" ""]
      [.index "user_city" ["city"] true]).run ((empty .standard).inPlace indexed)).2.tables.map
        TableDefinition.columnNames = [["age"]] := by
  decide +kernel

end Registry

end FilterStore
