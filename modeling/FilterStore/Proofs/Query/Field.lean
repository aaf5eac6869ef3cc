import FilterStore.Proofs.Query.Binding
import FilterStore.Proofs.Schema.Consistent

/-!
# What a field of a record is written as

A field names a column in any spelling.  The column is looked up, and then looked up once more by
the name it is registered under, for the affinity by which its values are stored.  In a registry in
which names are identifiers and occur once both lookups find the same column
(`Tidy.storageAffinity?_eq`), so the cell of a field depends on its column and its value alone, and
not on its place in the record.  A record is accepted exactly if every field names a column and has
a value that can be stored (`Statement.fields_eq_ok_iff`).
-/

namespace FilterStore

open Text (lower sameName trim)

/-! ## Finding what is registered -/

/-- It does not matter whether a column is looked up as it is written or as clauses write it. -/
theorem TableDefinition.column?_lower_trim (t : TableDefinition) (name : String) :
    t.column? (lower (trim name)) = t.column? name := by
  have same : ∀ c : ColumnDefinition,
      sameName c.name (lower (trim name)) = sameName c.name (trim name) := by
    intro c
    rw [Bool.eq_iff_iff, Text.sameName_iff, Text.sameName_iff, Text.lower_lower]
  simp only [TableDefinition.column?, Text.trim_lower, Text.trim_trim, Named.find?, same]

namespace Registry

variable {r : Registry} {t : TableDefinition} {c : ColumnDefinition} {name : String}

theorem Tidy.table?_name (hr : r.Tidy) (ht : t ∈ r.tables) : r.table? t.name = some t := by
  rw [Registry.table?, trim_of_isIdentifier (hr.named t ht).name]
  exact hr.tables.find?_of_sameName ht (Text.sameName_refl t.name)

theorem Tidy.column?_name (hr : r.Tidy) (ht : t ∈ r.tables) (hc : c ∈ t.columns) :
    t.column? c.name = some c := by
  rw [TableDefinition.column?, trim_of_isIdentifier ((hr.named t ht).columns c hc)]
  exact (hr.columns t ht).find?_of_sameName hc (Text.sameName_refl c.name)

/-- The affinity that is looked up for a column is the column's own. -/
theorem Tidy.storageAffinity?_eq (hr : r.Tidy) (ht : t ∈ r.tables) (hc : c ∈ t.columns) :
    r.storageAffinity? t.name c.name = some (r.affinityOf c) := by
  rw [Registry.storageAffinity?, Registry.column?, hr.table?_name ht, Option.bind_some,
    hr.column?_name ht hc, Option.map_some]

/-- A clause is the condition on the column it names, and all temporal columns store dates alike. -/
theorem Tidy.compile_eq_condition (hr : r.Tidy) (ht : t ∈ r.tables) (hc : t.column? name = some c)
    {operator : String} {o : Operator} (ho : Operator.parse? operator = some o) (index : Nat)
    (operand : Option Operand) (connective : Option Connective) :
    ColumnClause.compile r t index ⟨name, operator, operand, connective⟩ =
      Clause.condition
        ⟨index, lower c.name, if c.temporal then some r.timestampAffinity else none⟩ o operand := by
  have found : t.column? (lower (trim name)) = some c := by
    rw [t.column?_lower_trim, hc]
  obtain ⟨mem, named⟩ := t.column?_lower found
  have affinity : (if c.temporal then r.storageAffinity? t.name c.name else none) =
      if c.temporal then some r.timestampAffinity else none := by
    rw [hr.storageAffinity?_eq ht mem, affinityOf]
    cases c.temporal <;> simp
  simp only [ColumnClause.compile, ho, found, Option.isNone_some, Bool.and_false,
    Bool.false_eq_true, if_false, Option.bind_some, affinity]
  rw [named]

end Registry

/-! ## Cells of fields -/

/-- The cell that is written for a value of a column. -/
def Registry.writtenCell (r : Registry) (c : ColumnDefinition) (v : Value) :
    Except Unencodable Cell :=
  v.encodeFor (r.affinityOf c)

namespace Statement

variable {r : Registry} {t : TableDefinition}

/-- A field names a column, and its value is written as a cell. -/
def Assigns (r : Registry) (t : TableDefinition) (f : String × Value) (cell : String × Cell) :
    Prop :=
  ∃ c, t.column? f.1 = some c ∧ cell.1 = c.name ∧ r.writtenCell c f.2 = .ok cell.2

/-- **A record is accepted exactly if all its fields are, each for itself.** -/
theorem fields_eq_ok_iff (hr : r.Tidy) (ht : t ∈ r.tables) {index : Nat}
    {fs : List (String × Value)} {cells : List (String × Cell)} :
    fields r t index fs = .ok cells ↔ List.Forall₂ (Assigns r t) fs cells := by
  induction fs generalizing index cells with
  | nil =>
    rw [fields, List.forall₂_nil_left_iff]
    exact ⟨fun h => by cases h; rfl, fun h => by rw [h]⟩
  | cons f fs ih =>
    obtain ⟨name, v⟩ := f
    rw [List.forall₂_cons_left_iff]
    cases found : t.column? name with
    | none =>
      simp only [fields, found]
      refine ⟨fun h => (by cases h), ?_⟩
      rintro ⟨_, _, ⟨c, there, -⟩, -⟩
      cases found.symm.trans there
    | some c =>
      have affinity : (r.storageAffinity? t.name c.name).getD c.affinity = r.affinityOf c := by
        rw [hr.storageAffinity?_eq ht (Named.mem_of_find? found), Option.getD_some]
      simp only [fields, found, affinity]
      cases stored : v.encodeFor (r.affinityOf c) with
      | error cause =>
        refine ⟨fun h => (by cases h), ?_⟩
        rintro ⟨_, _, ⟨d, there, -, written⟩, -⟩
        cases found.symm.trans there
        cases stored.symm.trans written
      | ok cell =>
        simp only [bind_eq_ok_iff, Except.ok.injEq, ih]
        constructor
        · rintro ⟨others, rest, rfl⟩
          exact ⟨(c.name, cell), others, ⟨c, found, rfl, stored⟩, rest, rfl⟩
        · rintro ⟨⟨_, _⟩, others, ⟨d, there, named, written⟩, rest, rfl⟩
          cases found.symm.trans there
          cases named
          cases stored.symm.trans written
          exact ⟨others, rest, rfl⟩

end Statement

/-! ## Fields of requests -/

namespace Registry

variable {r : Registry} {table : String} {t : TableDefinition}

open Statement (Assigns)

/-- A record of which all fields are accepted is inserted, a placeholder for each of its cells. -/
theorem compileInsert_of_assigns (hr : r.Tidy) (ht : r.table? table = some t) {record : Record}
    (filled : record.fields ≠ []) {cells : List (String × Cell)}
    (assigns : List.Forall₂ (Assigns r t) record.fields cells) :
    r.compileInsert table record =
      .ok ⟨"INSERT INTO " ++ t.name ++ " (" ++ ", ".intercalate (cells.map (·.1)) ++ ") VALUES (" ++
        Query.marks cells.length ++ ")", cells.map (·.2)⟩ := by
  have filled : record.isEmpty = false := List.isEmpty_eq_false_iff.mpr filled
  have fields : Statement.fields r t 0 record.fields = .ok cells :=
    (Statement.fields_eq_ok_iff hr (mem_tables_of_table? ht)).mpr assigns
  rw [Registry.compileInsert, target_eq_ok_iff.mpr ht]
  show (if record.isEmpty then _ else _) = _
  rw [filled, fields]
  rfl

/-- The same before the condition of an update. -/
theorem compileUpdate_of_assigns (hr : r.Tidy) (ht : r.table? table = some t) {record : Record}
    (filled : record.fields ≠ []) {cells : List (String × Cell)}
    (assigns : List.Forall₂ (Assigns r t) record.fields cells) {spec : Spec} {condition : Query}
    (hcondition : r.whereClause t spec = .ok condition) :
    r.compileUpdate table record spec =
      .ok (⟨"UPDATE " ++ t.name ++ " SET " ++ ", ".intercalate (cells.map fun f => f.1 ++ " = ?"),
        cells.map (·.2)⟩ ++ condition) := by
  have filled : record.isEmpty = false := List.isEmpty_eq_false_iff.mpr filled
  have fields : Statement.fields r t 0 record.fields = .ok cells :=
    (Statement.fields_eq_ok_iff hr (mem_tables_of_table? ht)).mpr assigns
  rw [Registry.compileUpdate, target_eq_ok_iff.mpr ht]
  show (if record.isEmpty then _ else _) = _
  rw [filled, fields]
  show (r.whereClause t spec >>= _) = _
  rw [hcondition]
  rfl

/-- The cells of a statement start with those of the fields, in their order. -/
theorem exists_cells_of_compile (hr : r.Tidy) {request : Request} {q : Query}
    (hq : request.compile r table = .ok (some q)) :
    ∃ t cells, r.table? table = some t ∧ List.Forall₂ (Assigns r t) request.fields cells ∧
      cells.map (·.2) <+: q.values := by
  obtain ⟨t, ht, p, woven⟩ := exists_parts_of_compile hr.named hq
  have assigns := (Statement.fields_eq_ok_iff hr (mem_tables_of_table? ht)).mp p.fields_eq
  refine ⟨t, p.fields, ht, assigns, ?_⟩
  have apart : request.fields = [] ∨ request.columns = [] := by
    cases request <;> simp [Request.fields, Request.columns]
  rcases apart with none | none
  · rw [none, List.forall₂_nil_left_iff] at assigns
    rw [assigns]
    exact List.nil_prefix
  · have marks : (p.fields.map fun f => Query.mark f.2).flatMap Query.values =
        p.fields.map (·.2) := by
      rw [List.flatMap_map, List.map_eq_flatMap]
      rfl
    rw [woven.values, Parts.all, none, selectedRaws, List.filterMap_nil, List.map_nil,
      List.nil_append, Parts.checked, List.flatMap_append, marks]
    exact List.prefix_append ..

/-- A field has its cell at its own position. -/
theorem getElem?_values_of_compile (hr : r.Tidy) (ht : r.table? table = some t) {request : Request}
    {q : Query} (hq : request.compile r table = .ok (some q)) {i : Nat} {name : String} {v : Value}
    (field : request.fields[i]? = some (name, v)) {c : ColumnDefinition}
    (hc : t.column? name = some c) {cell : Cell} (hcell : r.writtenCell c v = .ok cell) :
    q.values[i]? = some cell := by
  obtain ⟨u, cells, hu, assigns, rest, values⟩ := exists_cells_of_compile hr hq
  obtain rfl := Option.some.inj (ht.symm.trans hu)
  obtain ⟨hi, at_i⟩ := List.getElem?_eq_some_iff.mp field
  have hj : i < cells.length := assigns.length_eq ▸ hi
  obtain ⟨d, found, -, written⟩ := assigns.get hi hj
  simp only [List.get_eq_getElem, at_i] at found written
  cases hc.symm.trans found
  cases hcell.symm.trans written
  rw [← values, List.getElem?_append_left (by rwa [List.length_map]), List.getElem?_map,
    List.getElem?_eq_getElem hj, Option.map_some]

/-! ## A registry to look at -/

/-- A table of visits, with a day as a number and a time as a date. -/
def visits : TableDefinition :=
  { name := "visit"
    columns := [⟨"day", "INTEGER", "", false⟩, ⟨"seen", "DATETIME", "", true⟩,
      ⟨"note", "TEXT", "", false⟩]
    constraints := []
    triggers := [] }

/-- The registry that knows this table alone. -/
def ofVisits : Registry := { empty .standard with tables := [visits] }

theorem ofVisits_reachable : ofVisits.Reachable :=
  .mutate (.addTable "visit" visits.columns []) (.empty .standard) rfl

/-- Half past noon on the first of March 2024. -/
def noon : Calendar.Instant :=
  (Calendar.Instant.ofClock? ⟨2024, 3, 1⟩ ⟨12, 30, 0, 0⟩ 0).get (by decide)

end Registry

end FilterStore
