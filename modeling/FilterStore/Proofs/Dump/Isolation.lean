import FilterStore.Proofs.Dump.Load
import FilterStore.Proofs.Outcome

/-!
# Tables that fail

Once the statements of a document have been run, its tables are loaded one after the other.  A table
that cannot be loaded is reported and stays as it was, and the others do not notice.

How a row is inserted does not matter for this.  So documents are restored here into anything that
statements can be run on and rows inserted into, a `Restorer`; the connection to a database is one
(`Restorer.restore_connection`).  What is asked of it is little: to insert a row is a step that
changes the contents of its own table or fails, and a transaction is all or nothing
(`Restorer.Lawful`).

The contents that loading leaves, and the faults it answers, are then those of a function of the
contents that were there (`Restorer.Sight.fates`).  It goes from table to table, and for each of them
the rows count, the columns that are recorded and live, and the contents of this table, but nothing
else.
-/

namespace FilterStore

open Engine (Connection)

/-- Something that documents can be restored into. -/
structure Restorer (σ : Type) extends Target σ where
  /-- Runs a statement. -/
  statement : String → ExceptT Failure (StateM σ) Unit
  /-- Whether references between tables are enforced. -/
  enforced : σ → Bool
  enforce : Bool → StateM σ Unit

/-- A document has rows for a table under one name, as it always has where tables are told apart by
their names. -/
def Document.GivesOnce {κ : Type} (d : Document) (tableOf : String → κ) (table : String)
    (rows : List (List Json)) : Prop :=
  ∃ before after, d.data = before ++ (table, rows) :: after ∧
    ∀ e ∈ before ++ after, tableOf e.1 ≠ tableOf table

namespace Restorer

variable {σ κ γ : Type}

/-! ## Restoring -/

/-- Runs the statements of a document. -/
def replay (R : Restorer σ) (d : Document) : ExceptT Failure (StateM σ) Unit :=
  R.bounds.whole (d.sql.replayOrder.forM fun sql => R.statement (Replay.tolerant sql))

/-- Loads the rows of a document, while references between tables are not enforced. -/
def loadRows (R : Restorer σ) (d : Document) : StateM σ (List (String × RestoreFault)) := do
  let enforced := R.enforced (← get)
  R.enforce false
  let faults ← R.load d d.data
  if enforced then R.enforce true
  pure faults

/-- Restores a document, and answers it with the tables that could not be restored. -/
def restore (R : Restorer σ) (d : Document) : ExceptT Failure (StateM σ) Document := do
  R.replay d
  let faults ← ExceptT.lift (R.loadRows d)
  pure { d with errors := faults.map fun (table, f) => (table, f.message) }

/-- A connection as something that documents can be restored into. -/
def connection : Restorer Connection where
  toTarget := Target.connection
  statement := Action.batch
  enforced c := c.foreignKeys
  enforce := Document.enforceReferences

/-- Restoring into a connection is what restoring a document is. -/
theorem restore_connection (d : Document) : connection.restore d = d.restore := rfl

/-! ## What is asked -/

/-- How a state is looked at. -/
structure Sight (σ κ γ : Type) where
  /-- The table of a name.  Several names may mean one table. -/
  tableOf : String → κ
  contents : σ → κ → γ
  /-- The contents that an open transaction goes back to. -/
  start : σ → Option (κ → γ)
  /-- What inserting a row into the named columns of a table makes of its contents.  A row that is
  left out changes nothing. -/
  step : String → List String → List Json → γ → Except Failure γ

/-- States in which the tables are the same. -/
structure Alike (R : Restorer σ) (V : Sight σ κ γ) (s s' : σ) : Prop where
  contents : V.contents s' = V.contents s
  columns : R.columns s' = R.columns s

/-- Inserting a row acts on its table only, and transactions are all or nothing. -/
structure Lawful [DecidableEq κ] (R : Restorer σ) (V : Sight σ κ γ) : Prop where
  begins {s : σ} (h : V.start s = none) :
    ∃ s', R.bounds.begin.run s = (.ok (), s') ∧ R.Alike V s s' ∧
      V.start s' = some (V.contents s)
  inserts {s : σ} {g : κ → γ} {table : String} {columns : List String} {row : List Json} {c : γ}
    (h : V.start s = some g)
    (done : V.step table columns row (V.contents s (V.tableOf table)) = .ok c) :
    ∃ s', (R.insert table columns row).run s = (.ok (), s') ∧
      V.contents s' = Function.update (V.contents s) (V.tableOf table) c ∧
      R.columns s' = R.columns s ∧ V.start s' = some g
  /-- What an insertion that fails leaves of the contents does not matter. -/
  refuses {s : σ} {g : κ → γ} {table : String} {columns : List String} {row : List Json}
    {e : Failure} (h : V.start s = some g)
    (failed : V.step table columns row (V.contents s (V.tableOf table)) = .error e) :
    ∃ s', (R.insert table columns row).run s = (.error e, s') ∧
      R.columns s' = R.columns s ∧ V.start s' = some g
  commits {s : σ} {g : κ → γ} (h : V.start s = some g) :
    ∃ s', R.bounds.commit.run s = (.ok (), s') ∧ R.Alike V s s'
  ends {s s' : σ} (h : R.bounds.commit.run s = (.ok (), s')) : V.start s' = none
  undoes {s : σ} {g : κ → γ} (h : V.start s = some g) :
    V.contents (R.bounds.undo.run s).2 = g ∧ R.columns (R.bounds.undo.run s).2 = R.columns s ∧
      V.start (R.bounds.undo.run s).2 = none
  enforces {s : σ} (b : Bool) (h : V.start s = none) :
    R.Alike V s ((R.enforce b).run s).2 ∧ V.start ((R.enforce b).run s).2 = none

/-! ## What becomes of the tables -/

namespace Sight

/-- What inserting rows one after the other makes of the contents of a table. -/
def insertAll (V : Sight σ κ γ) (table : String) (columns : List String) (rows : List (List Json))
    (c : γ) : Except Failure γ :=
  rows.foldlM (fun c row => V.step table columns row c) c

/-- What loading rows makes of the contents of a table. -/
def attempt (V : Sight σ κ γ) (recorded live : List String) (table : String)
    (rows : List (List Json)) (c : γ) : Except RestoreFault γ := do
  checkColumns table recorded live rows
  (V.insertAll table recorded rows c).mapError .notInserted

/-- The faults when tables are loaded one after the other, and the contents that are left. -/
def fates [DecidableEq κ] (V : Sight σ κ γ) (d : Document) (live : String → List String) :
    List (String × List (List Json)) → (κ → γ) → List (String × RestoreFault) × (κ → γ)
  | [], g => ([], g)
  | (table, rows) :: rest, g =>
    match V.attempt ((d.tables.lookup table).getD []) (live table) table rows
        (g (V.tableOf table)) with
    | .ok c => V.fates d live rest (Function.update g (V.tableOf table) c)
    | .error f =>
      let (faults, g') := V.fates d live rest g
      ((table, f) :: faults, g')

end Sight

section Loading

variable [DecidableEq κ] {R : Restorer σ} {V : Sight σ κ γ} {s : σ}

/-- Rows are inserted one after the other, up to the first that cannot be. -/
theorem exists_run_rows (lawful : R.Lawful V) (table : String) (columns : List String)
    (rows : List (List Json)) {g : κ → γ} (h : V.start s = some g) :
    ∃ s', (rows.forM (R.insert table columns)).run s =
        ((V.insertAll table columns rows (V.contents s (V.tableOf table))).map fun _ => (), s') ∧
      R.columns s' = R.columns s ∧ V.start s' = some g ∧
      ∀ c, V.insertAll table columns rows (V.contents s (V.tableOf table)) = .ok c →
        V.contents s' = Function.update (V.contents s) (V.tableOf table) c := by
  induction rows generalizing s with
  | nil =>
    refine ⟨s, rfl, rfl, h, fun c done => ?_⟩
    cases done
    exact (Function.update_eq_self _ _).symm
  | cons row rows ih =>
    rw [Sight.insertAll, List.foldlM_cons]
    cases first : V.step table columns row (V.contents s (V.tableOf table)) with
    | error e =>
      obtain ⟨s', refused, same, under⟩ := lawful.refuses h first
      refine ⟨s', ?_, same, under, fun c done => by cases done⟩
      rw [run_forM_cons, run_bind, refused]
      rfl
    | ok c =>
      obtain ⟨s₁, inserted, contents, same, under⟩ := lawful.inserts h first
      obtain ⟨s', rest, same', under', done⟩ := ih under
      have own : V.contents s₁ (V.tableOf table) = c := by
        rw [contents, Function.update_self]
      rw [own] at rest done
      rw [ok_bind]
      refine ⟨s', ?_, same'.trans same, under', fun c' hc => ?_⟩
      · rw [run_forM_cons, run_bind, inserted]
        exact rest
      · rw [done c' hc, contents, Function.update_idem]

/-- The rows of a table are inserted all or, if one cannot be, not at all. -/
theorem exists_run_insertRows (lawful : R.Lawful V) (table : String) (columns : List String)
    (rows : List (List Json)) (h : V.start s = none) :
    ∃ s', R.columns s' = R.columns s ∧ V.start s' = none ∧
      match V.insertAll table columns rows (V.contents s (V.tableOf table)) with
      | .ok c => (R.insertRows table columns rows).run s = (none, s') ∧
          V.contents s' = Function.update (V.contents s) (V.tableOf table) c
      | .error e => (R.insertRows table columns rows).run s = (some (.notInserted e), s') ∧
          V.contents s' = V.contents s := by
  obtain ⟨s₁, begun, alike, opened⟩ := lawful.begins h
  obtain ⟨s₂, ran, columns₂, under, done⟩ :=
    exists_run_rows lawful table columns rows opened
  rw [alike.contents] at ran done
  rw [Target.run_insertRows, Bounds.run_whole, begun]
  simp only [run_bind, ran]
  cases inserted : V.insertAll table columns rows (V.contents s (V.tableOf table)) with
  | ok c =>
    obtain ⟨s₃, kept, alike₃⟩ := lawful.commits under
    refine ⟨s₃, alike₃.columns.trans (columns₂.trans alike.columns), lawful.ends kept, ?_, ?_⟩
    · simp only [Except.map, kept, run_pure]
    · rw [alike₃.contents, done c inserted]
  | error e =>
    obtain ⟨contents, columns₃, ended⟩ := lawful.undoes under
    exact ⟨(R.bounds.undo.run s₂).2, columns₃.trans (columns₂.trans alike.columns), ended, rfl,
      contents⟩

/-- A table is loaded as a whole or stays as it is. -/
theorem exists_run_loadTable (lawful : R.Lawful V) (d : Document) (table : String)
    (rows : List (List Json)) (h : V.start s = none) :
    ∃ s', R.columns s' = R.columns s ∧ V.start s' = none ∧
      match V.attempt ((d.tables.lookup table).getD []) (R.columns s table) table rows
        (V.contents s (V.tableOf table)) with
      | .ok c => (R.loadTable d table rows).run s = (none, s') ∧
          V.contents s' = Function.update (V.contents s) (V.tableOf table) c
      | .error f => (R.loadTable d table rows).run s = (some f, s') ∧
          V.contents s' = V.contents s := by
  rw [Target.run_loadTable, Sight.attempt]
  cases checkColumns table ((d.tables.lookup table).getD []) (R.columns s table) rows with
  | error f => exact ⟨s, rfl, h, rfl, rfl⟩
  | ok _ =>
    obtain _ | ⟨row, rows⟩ := rows
    · exact ⟨s, rfl, h, rfl, (Function.update_eq_self _ _).symm⟩
    · obtain ⟨s', columns, ended, result⟩ := exists_run_insertRows lawful table
        ((d.tables.lookup table).getD []) (row :: rows) h
      refine ⟨s', columns, ended, ?_⟩
      rw [ok_bind]
      cases inserted : V.insertAll table ((d.tables.lookup table).getD []) (row :: rows)
          (V.contents s (V.tableOf table)) with
      | ok c =>
        rw [inserted] at result
        exact result
      | error e =>
        rw [inserted] at result
        exact result

/-- **Loading does to the contents what becomes of them, and answers those faults.** -/
theorem exists_run_load (lawful : R.Lawful V) (d : Document)
    (es : List (String × List (List Json))) (h : V.start s = none) :
    ∃ s', (R.load d es).run s = ((V.fates d (R.columns s) es (V.contents s)).1, s') ∧
      R.columns s' = R.columns s ∧ V.start s' = none ∧
      V.contents s' = (V.fates d (R.columns s) es (V.contents s)).2 := by
  induction es generalizing s with
  | nil => exact ⟨s, rfl, rfl, h, rfl⟩
  | cons e es ih =>
    obtain ⟨table, rows⟩ := e
    obtain ⟨s₁, columns, ended, result⟩ := exists_run_loadTable lawful d table rows h
    obtain ⟨s', loaded, columns', ended', contents⟩ := ih ended
    rw [columns] at loaded contents
    refine ⟨s', ?_⟩
    rw [Sight.fates, Target.run_load_cons]
    cases attempted : V.attempt ((d.tables.lookup table).getD []) (R.columns s table) table rows
        (V.contents s (V.tableOf table)) with
    | ok c =>
      rw [attempted] at result
      obtain ⟨first, now⟩ := result
      rw [now] at loaded contents
      rw [first, loaded]
      exact ⟨rfl, columns'.trans columns, ended', contents⟩
    | error f =>
      rw [attempted] at result
      obtain ⟨first, now⟩ := result
      rw [now] at loaded contents
      rw [first, loaded]
      exact ⟨rfl, columns'.trans columns, ended', contents⟩

/-- Rows are loaded when the statements have been run. -/
theorem run_restore {d : Document} {s₁ s₂ : σ} {faults : List (String × RestoreFault)}
    (replayed : (R.replay d).run s = (.ok (), s₁)) (loaded : (R.loadRows d).run s₁ = (faults, s₂)) :
    (R.restore d).run s =
      (.ok { d with errors := faults.map fun (table, f) => (table, f.message) }, s₂) := by
  unfold restore
  rw [run_bind, replayed]
  have lifted : (do
      let faults ← ExceptT.lift (R.loadRows d)
      pure { d with errors := faults.map fun (table, f) => (table, f.message) } :
        ExceptT Failure (StateM σ) Document).run s₁ =
      (.ok { d with errors := ((R.loadRows d).run s₁).1.map fun (table, f) => (table, f.message) },
        ((R.loadRows d).run s₁).2) := rfl
  simp only [lifted, loaded]

end Loading

/-! ## Table by table -/

section Fates

variable [DecidableEq κ] {V : Sight σ κ γ} {d : Document} {live : String → List String}
  {es : List (String × List (List Json))} {g : κ → γ}

theorem Sight.fates_append (es' : List (String × List (List Json))) :
    V.fates d live (es ++ es') g =
      ((V.fates d live es g).1 ++ (V.fates d live es' (V.fates d live es g).2).1,
        (V.fates d live es' (V.fates d live es g).2).2) := by
  induction es generalizing g with
  | nil => rfl
  | cons e es ih =>
    obtain ⟨table, rows⟩ := e
    rw [List.cons_append, fates, fates]
    split
    · exact ih
    · rw [ih]
      rfl

/-- A table that is not loaded stays as it is. -/
theorem Sight.contents_fates {k : κ} (other : ∀ e ∈ es, V.tableOf e.1 ≠ k) :
    (V.fates d live es g).2 k = g k := by
  induction es generalizing g with
  | nil => rfl
  | cons e es ih =>
    obtain ⟨table, rows⟩ := e
    obtain ⟨first, others⟩ := List.forall_mem_cons.mp other
    rw [fates]
    split
    · rw [ih others, Function.update_of_ne first.symm]
    · exact ih others

/-- Only tables that are loaded are reported. -/
theorem Sight.mem_of_mem_faults {table : String}
    (h : table ∈ (V.fates d live es g).1.map Prod.fst) : table ∈ es.map Prod.fst := by
  induction es generalizing g with
  | nil => exact h
  | cons e es ih =>
    obtain ⟨first, rows⟩ := e
    rw [fates] at h
    split at h
    · exact List.mem_cons_of_mem _ (ih h)
    · rcases List.mem_cons.mp h with rfl | h
      · exact List.mem_cons_self
      · exact List.mem_cons_of_mem _ (ih h)

theorem Sight.lookup_faults_eq_none {table : String}
    (other : ∀ e ∈ es, V.tableOf e.1 ≠ V.tableOf table) :
    (V.fates d live es g).1.lookup table = none := by
  refine List.lookup_eq_none_iff.mpr fun p hp => ?_
  obtain ⟨e, he, same⟩ := List.mem_map.mp (mem_of_mem_faults (List.mem_map_of_mem hp))
  rw [bne_iff_ne]
  rintro rfl
  exact other e he (congrArg V.tableOf same)

variable (live g) in
/-- What becomes of a table that is given once follows from its rows, columns and contents. -/
theorem Sight.fates_once {table : String} {rows : List (List Json)}
    (once : d.GivesOnce V.tableOf table rows) :
    match V.attempt ((d.tables.lookup table).getD []) (live table) table rows
      (g (V.tableOf table)) with
    | .ok c => (V.fates d live d.data g).1.lookup table = none ∧
        (V.fates d live d.data g).2 (V.tableOf table) = c
    | .error f => (V.fates d live d.data g).1.lookup table = some f ∧
        (V.fates d live d.data g).2 (V.tableOf table) = g (V.tableOf table) := by
  obtain ⟨before, after, data, other⟩ := once
  obtain ⟨earlier, later⟩ := List.forall_mem_append.mp other
  have untouched : (V.fates d live before g).2 (V.tableOf table) = g (V.tableOf table) :=
    contents_fates earlier
  rw [data, fates_append, fates, untouched]
  cases V.attempt ((d.tables.lookup table).getD []) (live table) table rows
      (g (V.tableOf table)) with
  | ok c =>
    refine ⟨?_, (contents_fates later).trans (Function.update_self ..)⟩
    rw [List.lookup_append, lookup_faults_eq_none earlier]
    exact lookup_faults_eq_none later
  | error f =>
    refine ⟨?_, (contents_fates later).trans untouched⟩
    rw [List.lookup_append, lookup_faults_eq_none earlier]
    exact List.lookup_cons_self

end Fates

/-! ## Isolation -/

/-- Two documents, and the states in which their statements have been run, have a table alike. -/
structure Agree (R : Restorer σ) (V : Sight σ κ γ) (table : String) (d : Document) (s : σ)
    (e : Document) (u : σ) : Prop where
  rows : ∃ rows, d.GivesOnce V.tableOf table rows ∧ e.GivesOnce V.tableOf table rows
  recorded : e.tables.lookup table = d.tables.lookup table
  columns : R.columns u table = R.columns s table
  contents : V.contents u (V.tableOf table) = V.contents s (V.tableOf table)

section Restoring

variable [DecidableEq κ] {R : Restorer σ} {V : Sight σ κ γ} {d : Document}

/-- A table that two documents have alike meets the same fate in both. -/
theorem Agree.fates {table : String} {e : Document} {s u : σ} (h : R.Agree V table d s e u) :
    (V.fates e (R.columns u) e.data (V.contents u)).1.lookup table =
        (V.fates d (R.columns s) d.data (V.contents s)).1.lookup table ∧
      (V.fates e (R.columns u) e.data (V.contents u)).2 (V.tableOf table) =
        (V.fates d (R.columns s) d.data (V.contents s)).2 (V.tableOf table) := by
  obtain ⟨rows, once, once'⟩ := h.rows
  have fate := Sight.fates_once (R.columns s) (V.contents s) once
  have fate' := Sight.fates_once (R.columns u) (V.contents u) once'
  rw [h.recorded, h.columns, h.contents] at fate'
  split at fate
  · rename_i c ok
    rw [ok] at fate'
    exact ⟨fate'.1.trans fate.1.symm, fate'.2.trans fate.2.symm⟩
  · rename_i f failed
    rw [failed] at fate'
    exact ⟨fate'.1.trans fate.1.symm, fate'.2.trans fate.2.symm⟩

end Restoring

/-! ## Tables on a shelf -/

/-- Tables with a text in each row, which keep every text once. -/
structure Shelf where
  columns : String → List String
  contents : String → List String
  start : Option (String → List String)
  enforced : Bool

namespace Shelf

/-- A text that is there already is left out, and what is no text is refused. -/
def step (row : List Json) (c : List String) : Except Failure (List String) :=
  match row with
  | [.string text] => .ok (if c.contains text then c else c ++ [text])
  | _ => .error .notOpen

def sight : Sight Shelf String (List String) where
  tableOf := Text.lower
  contents s := s.contents
  start s := s.start
  step _ _ := step

/-- A statement names a table, which gets one column. -/
def restorer : Restorer Shelf where
  columns s table := s.columns (Text.lower table)
  insert table _ row := ExceptT.mk fun s =>
    match step row (s.contents (Text.lower table)) with
    | .ok c => (.ok (), { s with contents := Function.update s.contents (Text.lower table) c })
    | .error e => (.error e, s)
  bounds :=
    { begin := ExceptT.mk fun s =>
        match s.start with
        | none => (.ok (), { s with start := some s.contents })
        | some _ => (.error .notOpen, s)
      commit := ExceptT.mk fun s =>
        match s.start with
        | none => (.error .notOpen, s)
        | some _ => (.ok (), { s with start := none })
      undo := fun s => ((), { s with contents := s.start.getD s.contents, start := none }) }
  statement table := ExceptT.mk fun s =>
    (.ok (), { s with columns := Function.update s.columns (Text.lower table) ["line"] })
  enforced s := s.enforced
  enforce b := fun s => ((), { s with enforced := b })

theorem run_insert (table : String) (columns : List String) (row : List Json) (s : Shelf) :
    (restorer.insert table columns row).run s =
      match step row (s.contents (Text.lower table)) with
      | .ok c => (.ok (), { s with contents := Function.update s.contents (Text.lower table) c })
      | .error e => (.error e, s) := rfl

theorem lawful : restorer.Lawful sight where
  begins {s} h := by
    obtain ⟨columns, contents, start, enforced⟩ := s
    obtain rfl : start = none := h
    exact ⟨⟨columns, contents, some contents, enforced⟩, rfl, ⟨rfl, rfl⟩, rfl⟩
  inserts {s g table columns row c} h done := by
    have stepped : step row (s.contents (Text.lower table)) = .ok c := done
    refine ⟨{ s with contents := Function.update s.contents (Text.lower table) c }, ?_, rfl, rfl, h⟩
    rw [run_insert, stepped]
  refuses {s g table columns row e} h failed := by
    have stepped : step row (s.contents (Text.lower table)) = .error e := failed
    refine ⟨s, ?_, rfl, h⟩
    rw [run_insert, stepped]
  commits {s g} h := by
    obtain ⟨columns, contents, start, enforced⟩ := s
    obtain rfl : start = some g := h
    exact ⟨⟨columns, contents, none, enforced⟩, rfl, rfl, rfl⟩
  ends {s s'} h := by
    obtain ⟨columns, contents, _ | start, enforced⟩ := s
    · cases h
    · cases h
      rfl
  undoes {s g} h := by
    obtain ⟨columns, contents, start, enforced⟩ := s
    obtain rfl : start = some g := h
    exact ⟨rfl, rfl, rfl⟩
  enforces {s} b h := ⟨⟨rfl, rfl⟩, h⟩

end Shelf

end Restorer

end FilterStore
