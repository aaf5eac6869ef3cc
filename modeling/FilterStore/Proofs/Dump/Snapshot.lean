import FilterStore.Dump.Snapshot
import FilterStore.Proofs.Engine.RowQuery

/-!
# What a dump records

A dump asks for the rows of one table after the other and changes nothing.  What it answers is known
from the database: the columns of every table under its name, and its rows, cell by cell
(`Document.run_ofDatabase`).  The tables are sorted by their names, so of their order only that much
is said that each of them is there once.
-/

namespace FilterStore

open Engine (Connection Database Row Table)
open Sql (Column)

/-! ## Objects that are left out -/

namespace Engine.Wildcard

theorem anySuffix_of_nil {asked : List Char → Bool} (h : asked [] = true) (cs : List Char) :
    anySuffix asked cs = true := by
  induction cs with
  | nil => exact h
  | cons c cs ih =>
    unfold anySuffix
    rw [ih, Bool.or_true]

theorem accepts_none_cons (p : Char) (ps cs : List Char) :
    accepts none (p :: ps) cs =
      if p = '%' then anySuffix (accepts none ps) cs
      else if p = '_' then headMatches (fun _ => true) (accepts none ps) cs
      else headMatches (sameLetter p) (accepts none ps) cs := by
  -- An escape character takes the next one with it, so the definition looks two ahead.
  rcases ps with _ | ⟨q, qs⟩ <;> exact if_neg (c := none = some p) nofun

/-- Where small letters are asked for first, they stand there in any case. -/
theorem accepts_append_iff {ps qs cs : List Char} (plain : '%' ∉ ps ∧ '_' ∉ ps)
    (small : ps.map Char.toLower = ps) :
    accepts none (ps ++ qs) cs = true ↔
      ∃ front rest, cs = front ++ rest ∧ front.map Char.toLower = ps ∧
        accepts none qs rest = true := by
  induction ps generalizing cs with
  | nil =>
    refine ⟨fun h => ⟨[], cs, rfl, rfl, h⟩, ?_⟩
    rintro ⟨front, rest, rfl, none, h⟩
    obtain rfl := List.map_eq_nil_iff.mp none
    exact h
  | cons p ps ih =>
    have percent : p ≠ '%' := fun eq => plain.1 (eq ▸ List.mem_cons_self)
    have score : p ≠ '_' := fun eq => plain.2 (eq ▸ List.mem_cons_self)
    obtain ⟨same, smaller⟩ := List.cons.inj small
    have rest := fun cs => @ih cs
      ⟨fun mem => plain.1 (List.mem_cons_of_mem p mem),
        fun mem => plain.2 (List.mem_cons_of_mem p mem)⟩
      smaller
    rw [List.cons_append, accepts_none_cons, if_neg percent, if_neg score]
    constructor
    · intro h
      obtain _ | ⟨c, cs⟩ := cs
      · cases h
      obtain ⟨letter, h⟩ := Bool.and_eq_true_iff.mp h
      obtain ⟨front, after, rfl, lowered, asked⟩ := (rest cs).mp h
      have alike : c.toLower = p := (eq_of_beq letter).symm.trans same
      exact ⟨c :: front, after, rfl, by rw [List.map_cons, alike, lowered], asked⟩
    · rintro ⟨front, after, rfl, lowered, asked⟩
      obtain ⟨c, front, rfl, alike, lowered⟩ := List.map_eq_cons_iff.mp lowered
      refine Bool.and_eq_true_iff.mpr ⟨?_, (rest _).mpr ⟨front, after, rfl, lowered, asked⟩⟩
      rw [sameLetter, same, alike]
      exact beq_self_eq_true p

end Engine.Wildcard

/-- What the pattern asks for is six letters and one character more. -/
theorem isInternal_iff {name : String} :
    isInternal name = true ↔ ∃ mark rest, (Text.lower name).toList = "sqlite".toList ++ mark :: rest := by
  have pattern : internalPattern.toList = "sqlite".toList ++ ['_', '%'] := by decide +kernel
  have letters : (Text.lower name).toList = name.toList.map Char.toLower := String.toList_ofList
  have other : ('_' : Char) ≠ '%' := by decide
  rw [isInternal, Engine.Wildcard.accepting, pattern,
    Engine.Wildcard.accepts_append_iff (by decide +kernel) (by decide +kernel), letters]
  constructor
  · rintro ⟨front, after, split, lowered, asked⟩
    obtain _ | ⟨mark, rest⟩ := after
    · rw [Engine.Wildcard.accepts_none_cons, if_neg other, if_pos rfl] at asked
      cases asked
    · exact ⟨mark.toLower, rest.map Char.toLower, by rw [split, List.map_append, lowered]; rfl⟩
  · rintro ⟨mark, rest, split⟩
    obtain ⟨front, after, whole, lowered, behind⟩ := List.map_eq_append_iff.mp split
    obtain ⟨c, cs, rfl, -, -⟩ := List.map_eq_cons_iff.mp behind
    refine ⟨front, c :: cs, whole, lowered, ?_⟩
    rw [Engine.Wildcard.accepts_none_cons, if_neg other, if_pos rfl]
    exact Engine.Wildcard.anySuffix_of_nil rfl cs

/-- The names that the engine keeps to itself are left out. -/
theorem isInternal_of_isReserved {name : String} (h : Engine.isReserved name = true) :
    isInternal name = true := by
  have start : Engine.reservedStart.toList = "sqlite".toList ++ ['_'] := by decide +kernel
  obtain ⟨rest, split⟩ := List.isPrefixOf_iff_prefix.mp h
  rw [isInternal_iff, ← split, start, List.append_assoc]
  exact ⟨'_', rest, rfl⟩

/-- Names that begin otherwise are not. -/
theorem isInternal_eq_false {name : String}
    (unlike : (Text.lower name).toList.take 6 ≠ "sqlite".toList) : isInternal name = false :=
  Bool.eq_false_iff.mpr fun internal => by
    obtain ⟨mark, rest, split⟩ := isInternal_iff.mp internal
    exact unlike (by rw [split]; rfl)

theorem recordedObjects_eq_objects {d : Database}
    (unlike : ∀ o ∈ d.objects, (Text.lower o.name).toList.take 6 ≠ "sqlite".toList) :
    recordedObjects d = d.objects :=
  List.filter_eq_self.mpr fun o ho => by
    rw [isInternal_eq_false (unlike o ho)]
    rfl

theorem isReserved_of_recorded {d : Database} {o : Engine.SchemaObject}
    (h : o ∈ recordedObjects d) : Engine.isReserved o.name = false :=
  Bool.eq_false_iff.mpr fun reserved => by
    have kept := (List.mem_filter.mp h).2
    rw [isInternal_of_isReserved reserved] at kept
    cases kept

/-! ## Entries that are sorted by name -/

namespace Json

variable {α : Type} (name : String) (value : α) (es : List (String × α))

theorem lookup_insertEntry_self : (insertEntry name value es).lookup name = some value := by
  induction es with
  | nil => exact List.lookup_cons_self
  | cons e es ih =>
    obtain ⟨n, v⟩ := e
    unfold insertEntry
    by_cases same : (name == n) = true
    · rw [if_pos same]
      exact List.lookup_cons_self
    rw [if_neg same]
    by_cases less : name < n
    · rw [if_pos less]
      exact List.lookup_cons_self
    · rw [if_neg less, List.lookup_cons, Bool.eq_false_iff.mpr same]
      exact ih

theorem lookup_insertEntry_of_ne {other : String} (h : other ≠ name) :
    (insertEntry name value es).lookup other = es.lookup other := by
  have skip : ∀ v es, List.lookup other ((name, v) :: es) = es.lookup other := fun (v : α) es => by
    rw [List.lookup_cons, beq_eq_false_iff_ne.mpr h]
  induction es with
  | nil => exact skip value []
  | cons e es ih =>
    obtain ⟨n, v⟩ := e
    unfold insertEntry
    by_cases same : (name == n) = true
    · obtain rfl : name = n := eq_of_beq same
      rw [if_pos same, skip, skip]
    rw [if_neg same]
    by_cases less : name < n
    · rw [if_pos less, skip]
    · rw [if_neg less, List.lookup_cons, List.lookup_cons, ih]

/-- An entry of a new name is added. -/
theorem insertEntry_perm (fresh : ∀ e ∈ es, name ≠ e.1) :
    (insertEntry name value es).Perm ((name, value) :: es) := by
  induction es with
  | nil => exact .refl _
  | cons e es ih =>
    obtain ⟨n, v⟩ := e
    have same : ¬(name == n) = true := by simpa using fresh _ List.mem_cons_self
    unfold insertEntry
    by_cases less : name < n
    · rw [if_neg same, if_pos less]
    · rw [if_neg same, if_neg less]
      exact ((ih fun e he => fresh e (List.mem_cons_of_mem _ he)).cons _).trans (.swap ..)

/-- Entries that are put in one after the other. -/
def insertEntries (new : List (String × α)) : List (String × α) :=
  new.foldl (fun es e => insertEntry e.1 e.2 es) es

variable {es} {new : List (String × α)}

theorem lookup_insertEntries_of_ne {other : String} (apart : ∀ e ∈ new, other ≠ e.1) :
    (insertEntries es new).lookup other = es.lookup other := by
  induction new generalizing es with
  | nil => rfl
  | cons e new ih =>
    obtain ⟨first, others⟩ := List.forall_mem_cons.mp apart
    exact (ih others).trans (lookup_insertEntry_of_ne e.1 e.2 es first)

/-- Entries of different names are all found. -/
theorem lookup_insertEntries (distinct : new.Pairwise fun a b => a.1 ≠ b.1) {e : String × α}
    (he : e ∈ new) : (insertEntries es new).lookup e.1 = some e.2 := by
  induction new generalizing es with
  | nil => cases he
  | cons first new ih =>
    obtain ⟨apart, others⟩ := List.pairwise_cons.mp distinct
    rcases List.mem_cons.mp he with rfl | he
    · exact (lookup_insertEntries_of_ne apart).trans (lookup_insertEntry_self e.1 e.2 es)
    · exact ih others he

end Json

namespace Document

/-- Rows as they stand in a document. -/
def rowsJson (rows : List Row) : List (List Json) := rows.map fun row => row.cells.map Cell.toJson

/-- A document with the columns and the rows of tables. -/
def withTables (d : Document) (ts : List Table) : Document :=
  ts.foldl (fun d t => d.withTable t.name (t.columns.map Column.name) (t.rows.map Row.cells)) d

/-- What is recorded of a database. -/
def recording (d : Database) : Document :=
  let objects := recordedObjects d
  { empty with sql := .ofObjects objects }.withTables
    (objects.filterMap Engine.SchemaObject.table?)

section WithTables

variable (d : Document) (ts : List Table)

theorem sql_withTables : (d.withTables ts).sql = d.sql := by
  induction ts generalizing d with
  | nil => rfl
  | cons t ts ih => exact ih _

theorem errors_withTables : (d.withTables ts).errors = d.errors := by
  induction ts generalizing d with
  | nil => rfl
  | cons t ts ih => exact ih _

theorem tables_withTables :
    (d.withTables ts).tables =
      Json.insertEntries d.tables (ts.map fun t => (t.name, t.columns.map Column.name)) := by
  induction ts generalizing d with
  | nil => rfl
  | cons t ts ih => exact ih _

theorem entries_withTables :
    (d.withTables ts).data =
      Json.insertEntries d.data (ts.map fun t => (t.name, rowsJson t.rows)) := by
  induction ts generalizing d with
  | nil => rfl
  | cons t ts ih =>
    have rows : rowsJson t.rows = (t.rows.map Row.cells).map fun row => row.map Cell.toJson := by
      rw [List.map_map]
      rfl
    rw [List.map_cons, rows]
    exact ih _

variable (distinct : ts.Pairwise fun a b => a.name ≠ b.name)

include distinct

/-- The columns of every table are found under its name. -/
theorem lookup_withTables {t : Table} (ht : t ∈ ts) :
    (d.withTables ts).tables.lookup t.name = some (t.columns.map Column.name) := by
  have apart : (ts.map fun t => (t.name, t.columns.map Column.name)).Pairwise
      fun a b => a.1 ≠ b.1 := List.pairwise_map.mpr distinct
  rw [tables_withTables]
  exact Json.lookup_insertEntries apart (List.mem_map.mpr ⟨t, ht, rfl⟩)

/-- So are its rows. -/
theorem lookup_entries_withTables {t : Table} (ht : t ∈ ts) :
    (d.withTables ts).data.lookup t.name = some (rowsJson t.rows) := by
  have apart : (ts.map fun t => (t.name, rowsJson t.rows)).Pairwise fun a b => a.1 ≠ b.1 :=
    List.pairwise_map.mpr distinct
  rw [entries_withTables]
  exact Json.lookup_insertEntries apart (List.mem_map.mpr ⟨t, ht, rfl⟩)

/-- The rows of every table are there once. -/
theorem data_withTables (fresh : ∀ t ∈ ts, ∀ e ∈ d.data, t.name ≠ e.1) :
    (d.withTables ts).data.Perm (ts.map (fun t => (t.name, rowsJson t.rows)) ++ d.data) := by
  induction ts generalizing d with
  | nil => exact .refl _
  | cons t ts ih =>
    obtain ⟨first, others⟩ := List.pairwise_cons.mp distinct
    have added : (d.withTable t.name (t.columns.map Column.name) (t.rows.map Row.cells)).data.Perm
        ((t.name, rowsJson t.rows) :: d.data) := by
      have rows : rowsJson t.rows = (t.rows.map Row.cells).map fun row => row.map Cell.toJson := by
        rw [List.map_map]
        rfl
      rw [rows]
      exact Json.insertEntry_perm _ _ _ (fresh t List.mem_cons_self)
    have behind := ih (d.withTable t.name (t.columns.map Column.name) (t.rows.map Row.cells)) others
      fun u hu e he => by
        rcases List.mem_cons.mp (added.mem_iff.mp he) with rfl | he
        · exact (first u hu).symm
        · exact fresh u (List.mem_cons_of_mem t hu) e he
    exact behind.trans ((List.Perm.append_left _ added).trans List.perm_middle)

end WithTables

/-! ## Asking for the rows -/

/-- A table can be asked for: it is found under its name, and its rows have a cell for every
column. -/
structure Readable (d : Database) (t : Table) : Prop where
  proper : t.Proper
  found : d.table? t.name = some t
  width : ∀ row ∈ t.rows, row.cells.length = t.columns.length

variable {c : Connection}

theorem run_readTable (d : Document) {t : Table} (h : Readable c.database t) :
    (d.readTable t).run c =
      (.ok (d.withTable t.name (t.columns.map Column.name) (t.rows.map Row.cells)), c) := by
  obtain ⟨answer, asked, rows⟩ := Engine.exists_run_query_rows h.proper h.found h.width
  unfold readTable
  rw [run_bind, asked]
  simp only [run_pure, rows]

theorem run_readTables (d : Document) {ts : List Table} (h : ∀ t ∈ ts, Readable c.database t) :
    (ts.foldlM readTable d).run c = (.ok (d.withTables ts), c) := by
  induction ts generalizing d with
  | nil => rfl
  | cons t ts ih =>
    rw [List.foldlM_cons, run_bind, run_readTable d (h t List.mem_cons_self)]
    exact ih _ fun u hu => h u (List.mem_cons_of_mem t hu)

/-- A dump answers what is recorded of the database, and changes nothing. -/
theorem run_ofDatabase
    (h : ∀ t ∈ (recordedObjects c.database).filterMap Engine.SchemaObject.table?,
      Readable c.database t) : ofDatabase.run c = (.ok (recording c.database), c) := by
  unfold ofDatabase
  rw [run_bind, run_get]
  exact run_readTables _ h

end Document

end FilterStore
