import FilterStore.Migration.Basic
import FilterStore.Proofs.Engine.Database

/-!
# Sound tables of versions

A table of versions is sound if it is as the migrations create it, every version in it is the number
of its row, and nothing else in the database has to do with it: no trigger, no index, no reference
and no temporary object of its name.  The rows are then what counts, and a version that is above all
others goes to their end.

A table that is not sound may be of no use as a ledger.  It can still stand apart from everything
else, so that it can be taken away alone.
-/

namespace FilterStore.VersionTable

open Engine
open Text (sameName)

/-! ## What the table is made of -/

/-- The time at which a row is added. -/
def appliedDefault : Sql.WrittenExpr where
  expr := .cast (.call { name := "strftime", offset := 107 }
    [.literal (.text "%s"), .literal (.text "now")]) .integer
  text := "CAST(strftime('%s', 'now') AS INTEGER)"

def versionColumn : Sql.Column where
  name := "version"
  declaredType := "INTEGER"
  notNull := false
  onNull := none
  collation := .binary
  default := none

def appliedColumn : Sql.Column where
  name := "applied"
  declaredType := "INTEGER"
  notNull := true
  onNull := none
  collation := .binary
  default := some appliedDefault

def ledgerParts : Sql.TableParts where
  columns := [versionColumn, appliedColumn]
  keys :=
    [{ columns := [{ name := "version", collation := none }], primary := true, descending := false
       conflict := none, lasting := false }]
  references := []
  checks := []
  flaw := none

/-- The table as it is created. -/
def created : Table where
  name := standardVersionTable
  parts := ledgerParts
  text := "CREATE TABLE _dbVersion (version INTEGER PRIMARY KEY, " ++
    "applied INTEGER NOT NULL DEFAULT (CAST(strftime('%s', 'now') AS INTEGER))"
  rest := ")"
  rows := []

/-! ## How it stands in a database -/

/-- No reference leads to the table of versions or from it, and no temporary object has its name. -/
structure Apart (d : Database) : Prop where
  permanent : ∀ o ∈ d.temporary, sameName o.name standardVersionTable = false
  unreferenced : ∀ t ∈ d.tables, ∀ r ∈ t.parts.references,
    sameName r.table standardVersionTable = false
  plain : ∀ t, d.table? standardVersionTable = some t →
    t.parts.references = [] ∧ t.isLasting = false

/-- A database without the table of versions and what belongs to it. -/
def without (d : Database) : Database :=
  if (d.object? [.table, .view] standardVersionTable).isSome then
    d.remove fun o => sameName o.tableName standardVersionTable
  else d

/-- The table of versions is as it is created but for its rows, if it is there at all, and nothing
else has to do with it. -/
structure Sound (d : Database) : Prop where
  permanent : ∀ o ∈ d.temporary, sameName o.name standardVersionTable = false
  unreferenced : ∀ t ∈ d.tables, ∀ r ∈ t.parts.references,
    sameName r.table standardVersionTable = false
  view : d.view? standardVersionTable = none
  triggers : d.triggersOf standardVersionTable = []
  indexes : d.indexesOf standardVersionTable = []
  table : ∀ t, d.table? standardVersionTable = some t → t.name = standardVersionTable ∧
    t.parts = ledgerParts ∧ ∀ row ∈ t.rows, row.cells.head? = some (.integer row.id)

/-- The versions in some rows. -/
def versionsIn (rows : List Row) : List Cell := rows.map fun row => row.cells.getD 0 .null

/-- The versions in the table, if there is one. -/
def versionsOf (d : Database) : Option (List Cell) :=
  (d.table? standardVersionTable).map fun t => versionsIn t.rows

theorem versionsOf_of_some {d : Database} {t : Table} (h : d.table? standardVersionTable = some t) :
    versionsOf d = some (versionsIn t.rows) := by
  unfold versionsOf
  rw [h]
  rfl

theorem exists_of_versionsOf {d : Database} {cs : List Cell} (h : versionsOf d = some cs) :
    ∃ t, d.table? standardVersionTable = some t ∧ versionsIn t.rows = cs :=
  Option.map_eq_some_iff.mp h

/-- Versions that are the numbers of their rows. -/
theorem versionsIn_eq {rows : List Row}
    (h : ∀ row ∈ rows, row.cells.head? = some (.integer row.id)) :
    versionsIn rows = (rows.map Row.id).map .integer := by
  unfold versionsIn
  rw [List.map_map]
  refine List.map_congr_left fun row hr => ?_
  have first := h row hr
  rw [List.head?_eq_getElem?] at first
  rw [List.getD_eq_getElem?_getD, first]
  rfl

theorem apart_of_sound {d : Database} (h : Sound d) : Apart d where
  permanent := h.permanent
  unreferenced := h.unreferenced
  plain t ht := by
    obtain ⟨name, parts, text, rest, rows⟩ := t
    obtain ⟨-, parts, -⟩ := h.table _ ht
    cases parts
    exact ⟨rfl, rfl⟩

/-! ## References -/

theorem Apart.referencesTo {d : Database} (h : Apart d) {t : Table}
    (same : sameName t.name standardVersionTable) : d.referencesTo t = [] := by
  unfold Database.referencesTo Table.referencesFrom
  refine List.flatMap_eq_nil_iff.mpr fun child hc => List.filter_eq_nil_iff.mpr fun p hp => ?_
  obtain ⟨r, hr, rfl⟩ := List.mem_map.mp hp
  have other := h.unreferenced child (List.mem_reverse.mp hc) r (List.mem_reverse.mp hr)
  have alike : sameName r.table t.name = sameName r.table standardVersionTable := by
    unfold sameName
    rw [Text.sameName_iff.mp same]
  show ¬sameName r.table t.name = true
  rw [alike, other]
  exact Bool.false_ne_true

theorem Apart.touchedOthers {d : Database} (h : Apart d) {t : Table}
    (same : sameName t.name standardVersionTable) (event : Event) :
    d.touchedOthers t event = [] := by
  unfold Database.touchedOthers
  rw [h.referencesTo same]
  rfl

/-! ## Rows that are added -/

section Insert

variable {d : Database} {t : Table} {row : Row}

/-- A table with one more row. -/
def addRow (row : Row) (t : Table) : Table := { t with rows := insertRow row t.rows }

/-- A database with one more row in its table of versions. -/
def withRow (row : Row) (d : Database) : Database := d.modifyTable standardVersionTable (addRow row)

theorem table?_withRow (found : d.table? standardVersionTable = some t) :
    (withRow row d).table? standardVersionTable = some (addRow row t) := by
  unfold withRow
  rw [d.table?_modifyTable (f := addRow row) standardVersionTable fun _ => rfl, found]
  rfl

theorem sound_withRow (h : Sound d) (found : d.table? standardVersionTable = some t)
    (version : row.cells.head? = some (.integer row.id)) : Sound (withRow row d) := by
  obtain ⟨name, parts, versions⟩ := h.table t found
  constructor
  case permanent =>
    intro o ho
    have named := List.mem_map_of_mem (f := SchemaObject.name) ho
    unfold withRow at named
    rw [d.names_modifyTable (f := addRow row) standardVersionTable fun _ => rfl] at named
    obtain ⟨o', ho', same⟩ := List.mem_map.mp named
    exact same ▸ h.permanent o' ho'
  case unreferenced =>
    intro u hu
    have made := List.mem_map_of_mem (f := Table.parts) hu
    unfold withRow at made
    rw [d.parts_modifyTable (f := addRow row) standardVersionTable fun _ => rfl] at made
    obtain ⟨u', hu', same⟩ := List.mem_map.mp made
    exact same ▸ h.unreferenced u' hu'
  case view => exact (Database.view?_modifyTable ..).trans h.view
  case triggers => exact (Database.triggersOf_modifyTable ..).trans h.triggers
  case indexes => exact (Database.indexesOf_modifyTable ..).trans h.indexes
  case table =>
    intro u hu
    obtain rfl := Option.some.inj ((table?_withRow found).symm.trans hu)
    refine ⟨name, parts, fun r hr => ?_⟩
    rcases mem_insertRow hr with rfl | hr
    · exact version
    · exact versions r hr

/-- A version above all others is the last one. -/
theorem versionsOf_withRow (found : d.table? standardVersionTable = some t)
    (version : row.cells.head? = some (.integer row.id)) (above : ∀ r ∈ t.rows, r.id < row.id) :
    versionsOf (withRow row d) = some (versionsIn t.rows ++ [.integer row.id]) := by
  have last : row.cells.getD 0 .null = .integer row.id := by
    rw [List.getD_eq_getElem?_getD, ← List.head?_eq_getElem?, version]
    rfl
  rw [versionsOf_of_some (table?_withRow found)]
  simp only [addRow, insertRow_of_above above, versionsIn, List.map_append, List.map_cons,
    List.map_nil, last]

end Insert

/-! ## A table that is added -/

theorem sound_add {d : Database} (h : Sound d) (missing : d.table? standardVersionTable = none) :
    Sound (d.add false (.table created)) := by
  constructor
  case permanent => exact h.permanent
  case unreferenced =>
    intro t ht
    rw [Database.tables_add] at ht
    rcases List.mem_append.mp ht with ht | ht
    · exact h.unreferenced t ht
    · obtain rfl := List.mem_singleton.mp ht
      exact fun r hr => by cases hr
  case view => exact (d.view?_add _ rfl _).trans h.view
  case triggers => exact (d.triggersOf_add _ rfl _).trans h.triggers
  case indexes => exact (d.indexesOf_add _ rfl _).trans h.indexes
  case table =>
    intro t ht
    obtain rfl := Option.some.inj ((d.table?_add (t := created) missing).symm.trans ht)
    exact ⟨rfl, rfl, fun row hr => by cases hr⟩

theorem versionsOf_add {d : Database} (missing : d.table? standardVersionTable = none) :
    versionsOf (d.add false (.table created)) = some [] :=
  versionsOf_of_some (d.table?_add (t := created) missing)

end FilterStore.VersionTable
