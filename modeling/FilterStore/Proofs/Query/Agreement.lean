import FilterStore.Proofs.Calendar.Stamp
import FilterStore.Proofs.Query.Field
import FilterStore.Store.Session

/-!
# Whether what is written is what is compared

A value of a column is bound in two ways: a record writes it, and a condition compares the column
with it.  If both ways made the same cell of it, a row would be found by the value it was written
with, and saving a record twice under one key would insert it once.

Both ways make the same cell of everything but a date.  They also make the same cell of a date in a
temporal column.  In any other column they go apart.  Comparing binds the interchange text, but
writing goes by the affinity of the declared type, as if the column were temporal, and only for a
type of blobs, or none, is that the interchange text as well.  So the two agree exactly for values
that are no dates, for temporal columns, and for columns of blobs (`written_eq_compared_iff`).
-/

namespace FilterStore

open Calendar (Instant)
open Text (lower trim)

/-! ## The notations of a date -/

/-- A date is stored as its interchange text where blobs are stored, and nowhere else. -/
theorem Value.encodeDate_eq_interchange_iff (d : Instant) (affinity : Affinity) :
    Value.encodeDate d affinity = .text d.interchange ↔ affinity = .blob := by
  cases affinity with
  | integer => simp [Value.encodeDate]
  | text => simpa [Value.encodeDate] using d.engineText_ne_interchange
  | blob => simp [Value.encodeDate]
  | real => simp [Value.encodeDate]
  | numeric => simp [Value.encodeDate]

/-! ## Cells of conditions -/

/-- A value that is neither a list nor an object. -/
def Value.isScalar : Value → Bool
  | .list _ | .object _ => false
  | _ => true

namespace Registry

variable {r : Registry} {table name : String} {t : TableDefinition} {c : ColumnDefinition}
  {v : Value}

/-- The cell that a column is compared with for a value. -/
def comparedCell (r : Registry) (c : ColumnDefinition) (v : Value) : Except Unencodable Cell :=
  Clause.encode (if c.temporal then some r.timestampAffinity else none) v

/-- Writing and comparing agree on a value exactly if it is no date, if the column is temporal, or
if the column stores blobs. -/
theorem exists_cells_of_isScalar (r : Registry) (c : ColumnDefinition) (hv : v.isScalar = true) :
    ∃ written compared, r.writtenCell c v = .ok written ∧ r.comparedCell c v = .ok compared ∧
      (written = compared ↔ (v.isDate = true → c.temporal = true ∨ c.affinity = .blob)) := by
  cases v with
  | list | object => cases hv
  | date d =>
    cases temporal : c.temporal with
    | true =>
      refine ⟨Value.encodeDate d r.timestampAffinity, Value.encodeDate d r.timestampAffinity,
        ?_, ?_, by simp⟩
      · simp only [writtenCell, affinityOf, temporal, if_true, Value.encodeFor]
      · simp only [comparedCell, temporal, if_true, Clause.encode, Value.encodeFor]
    | false =>
      refine ⟨Value.encodeDate d c.affinity, .text d.interchange, ?_, ?_, ?_⟩
      · simp only [writtenCell, affinityOf, temporal, Bool.false_eq_true, if_false, Value.encodeFor]
      · simp only [comparedCell, temporal, Bool.false_eq_true, if_false, Clause.encode,
          Value.encode]
      · rw [Value.encodeDate_eq_interchange_iff]
        simp [Value.isDate]
  | null | bool | integer | real | text | blob =>
    refine ⟨_, _, rfl, ?_, ⟨fun _ date => (by cases date), fun _ => rfl⟩⟩
    cases temporal : c.temporal <;> simp only [comparedCell, temporal] <;> rfl

/-- Comparing a column with a single value binds the cell of that value. -/
theorem compile_equal (hr : r.Tidy) (ht : t ∈ r.tables) (hc : t.column? name = some c)
    (hv : v.isScalar = true) {cell : Cell} (hcell : r.comparedCell c v = .ok cell)
    {operator : String} (hoperator : Operator.parse? operator = some (.compare .eq)) (index : Nat)
    (connective : Option Connective) :
    ColumnClause.compile r t index ⟨name, operator, some (.value v), connective⟩ =
      .ok ⟨lower c.name ++ " = ?", [cell]⟩ := by
  have single : ∀ x : Clause.Context, Clause.encode x.affinity v = .ok cell →
      x.single "=" (some (.value v)) = .ok ⟨x.column ++ " " ++ "=" ++ " ?", [cell]⟩ := by
    intro x hx
    cases v with
    | list | object => cases hv
    | _ => simp only [Clause.Context.single, hx]; rfl
  rw [hr.compile_eq_condition ht hc hoperator]
  refine (single ⟨index, _, _⟩ hcell).trans ?_
  rw [String.append_assoc, String.append_assoc]
  rfl

/-- The condition of a filter of this one clause. -/
theorem condition_equal (hr : r.Tidy) (ht : t ∈ r.tables) (hc : t.column? name = some c)
    (hv : v.isScalar = true) {cell : Cell} (hcell : r.comparedCell c v = .ok cell)
    {operator : String} (hoperator : Operator.parse? operator = some (.compare .eq))
    (connective : Option Connective) (joining : Connective) :
    Condition.compile r t joining [.column ⟨name, operator, some (.value v), connective⟩] =
      .ok ⟨"(" ++ lower c.name ++ " = ?)", [cell]⟩ := by
  refine bind_eq_ok_iff.mpr ⟨_, compile_equal hr ht hc hv hcell hoperator 0 connective,
    bind_eq_ok_iff.mpr ⟨.empty, rfl, congrArg Except.ok ?_⟩⟩
  rw [Condition.joint, if_pos rfl, Query.empty_append, Query.append_empty]
  refine Query.ext ?_ rfl
  rw [Condition.sql_enclosed, ← String.append_assoc, String.append_assoc,
    show (" = ?" ++ ")" : String) = " = ?)" from rfl]

/-- The condition by which a record is saved under a value. -/
theorem whereClause_keySpec (hr : r.Tidy) (ht : t ∈ r.tables) (hc : t.column? name = some c)
    (hv : v.isScalar = true) {cell : Cell} (hcell : r.comparedCell c v = .ok cell) :
    r.whereClause t (Session.keySpec name v) =
      .ok ⟨" WHERE (" ++ lower c.name ++ " = ?)", [cell]⟩ := by
  have operator : Operator.parse? "=" = some (.compare .eq) := rfl
  have condition := condition_equal hr ht hc hv hcell operator none .and
  refine bind_eq_ok_iff.mpr ⟨_, condition, congrArg Except.ok (Query.ext ?_ rfl)⟩
  rw [Query.sql_append, Query.sql_text, ← String.append_assoc, ← String.append_assoc,
    show (" WHERE " ++ "(" : String) = " WHERE (" from rfl]

/-! ## Agreement -/

/-- The cell that statements write for a value of a column: an insertion of this value alone, an
update of it alone where the condition compiles, and any statement with a field of this value among
others. -/
structure Writes (r : Registry) (t : TableDefinition) (c : ColumnDefinition) (v : Value)
    (cell : Cell) : Prop where
  insert : ∀ table name, r.table? table = some t → t.column? name = some c →
    r.compileInsert table ⟨[(name, v)]⟩ =
      .ok ⟨"INSERT INTO " ++ t.name ++ " (" ++ c.name ++ ") VALUES (?)", [cell]⟩
  update : ∀ table name spec condition, r.table? table = some t → t.column? name = some c →
    r.whereClause t spec = .ok condition →
      r.compileUpdate table ⟨[(name, v)]⟩ spec =
        .ok (⟨"UPDATE " ++ t.name ++ " SET " ++ (c.name ++ " = ?"), [cell]⟩ ++ condition)
  field : ∀ table, r.table? table = some t → ∀ (request : Request) (q : Query),
    request.compile r table = .ok (some q) → ∀ (i : Nat) (name : String),
      request.fields[i]? = some (name, v) → t.column? name = some c → q.values[i]? = some cell

/-- The cell that a column is compared with for equality to a value: in a filter of this one clause,
and when a record is saved under the value. -/
structure ComparesWith (r : Registry) (t : TableDefinition) (c : ColumnDefinition) (v : Value)
    (cell : Cell) : Prop where
  clause : ∀ table name operator, r.table? table = some t → t.column? name = some c →
    Operator.parse? operator = some (.compare .eq) → ∀ connective joining : Option Connective,
      r.compileWhere table [.column ⟨name, operator, some (.value v), connective⟩] joining =
        .ok (some ⟨"(" ++ lower c.name ++ " = ?)", [cell]⟩)
  key : ∀ name, t.column? name = some c →
    r.whereClause t (Session.keySpec name v) = .ok ⟨" WHERE (" ++ lower c.name ++ " = ?)", [cell]⟩

/-- **What is written for a value is what a column is compared with, unless the value is a date, and
the column is neither temporal nor one of blobs.** -/
theorem written_eq_compared_iff (hr : r.Reachable) (ht : t ∈ r.tables) (hc : c ∈ t.columns)
    (hv : v.isScalar = true) :
    r.table? t.name = some t ∧ t.column? c.name = some c ∧
      ∃ written compared, r.Writes t c v written ∧ r.ComparesWith t c v compared ∧
        (written = compared ↔ (v.isDate = true → c.temporal = true ∨ c.affinity = .blob)) := by
  obtain ⟨written, compared, hwritten, hcompared, agree⟩ := r.exists_cells_of_isScalar c hv
  have tidy := hr.consistent.toTidy
  have writes : r.Writes t c v written := by
    have alone : ∀ name, t.column? name = some c → List.Forall₂ (Statement.Assigns r t)
        (Record.mk [(name, v)]).fields [(c.name, written)] := fun name found =>
      .cons ⟨c, found, rfl, hwritten⟩ .nil
    constructor
    · intro table name there found
      rw [compileInsert_of_assigns tidy there (List.cons_ne_nil _ _) (alone name found)]
      refine congrArg Except.ok (Query.ext ?_ rfl)
      have marks : (") VALUES (" ++ Query.marks 1 ++ ")" : String) = ") VALUES (?)" := rfl
      rw [← marks, ← String.append_assoc, ← String.append_assoc, List.map_singleton,
        String.intercalate_singleton, List.length_singleton]
    · intro table name spec condition there found hcondition
      rw [compileUpdate_of_assigns tidy there (List.cons_ne_nil _ _) (alone name found) hcondition,
        List.map_singleton, String.intercalate_singleton, List.map_singleton]
    · intro table there request q hq i name field found
      exact getElem?_values_of_compile tidy there hq field found hwritten
  have compares : r.ComparesWith t c v compared := by
    constructor
    · intro table name operator there found hoperator connective joining
      have condition := condition_equal tidy ht found hv hcompared hoperator connective
        (joining.getD .and)
      exact (compileWhere_eq_ok_iff (List.cons_ne_nil _ _)).mpr ⟨t, there, _, condition, rfl⟩
    · exact fun name found => whereClause_keySpec tidy ht found hv hcompared
  exact ⟨tidy.table?_name ht, tidy.column?_name ht hc, written, compared, writes, compares, agree⟩

/-- A date in a temporal column is found by itself. -/
theorem written_eq_compared_seen :
    ofVisits.Reachable ∧ visits ∈ ofVisits.tables ∧
      ⟨"seen", "DATETIME", "", true⟩ ∈ visits.columns ∧ (Value.date noon).isScalar = true ∧
        ∃ cell, ofVisits.Writes visits ⟨"seen", "DATETIME", "", true⟩ (.date noon) cell ∧
          ofVisits.ComparesWith visits ⟨"seen", "DATETIME", "", true⟩ (.date noon) cell := by
  have known : visits ∈ ofVisits.tables := by decide
  have column : (⟨"seen", "DATETIME", "", true⟩ : ColumnDefinition) ∈ visits.columns := by decide
  obtain ⟨-, -, written, compared, writes, compares, agree⟩ :=
    written_eq_compared_iff ofVisits_reachable known column (v := .date noon) rfl
  obtain rfl := agree.mpr fun _ => .inl rfl
  exact ⟨ofVisits_reachable, known, column, rfl, written, writes, compares⟩

/-- Saves two notes for the same day in an empty database, and counts what is there then. -/
def savedTwice : Action (Saved × Saved × Nat) := do
  for sql in ofVisits.createStatements do
    Action.batch sql
  let session : Session := ⟨ofVisits, [], false⟩
  let first ← session.save "visit" ⟨[("day", .date noon), ("note", .text "first")]⟩ "day"
  let second ← session.save "visit" ⟨[("day", .date noon), ("note", .text "second")]⟩ "day"
  let count ← session.count "visit" .empty
  pure (first, second, count)

/-- A date in a column of integers is written as seconds but compared as a text, so that a record
saved again under it is inserted again. -/
theorem not_written_eq_compared_day :
    ofVisits.Reachable ∧
      ofVisits.compileInsert "visit" ⟨[("day", .date noon)]⟩ =
        .ok ⟨"INSERT INTO visit (day) VALUES (?)", [.integer 1709296200]⟩ ∧
      ofVisits.compileUpdate "visit" ⟨[("day", .date noon)]⟩ (Session.keySpec "day" (.date noon)) =
        .ok ⟨"UPDATE visit SET day = ? WHERE (day = ?)",
          [.integer 1709296200, .text "2024-03-01T12:30:00.000Z"]⟩ ∧
      ofVisits.compileWhere "visit" [.column ⟨"day", "=", some (.value (.date noon)), none⟩] none =
        .ok (some ⟨"(day = ?)", [.text "2024-03-01T12:30:00.000Z"]⟩) ∧
      (savedTwice.run (.ofDatabase .empty noon)).1.toOption = some (.inserted 1, .inserted 2, 2) ∧
      ¬ ∃ cell, ofVisits.Writes visits ⟨"day", "INTEGER", "", false⟩ (.date noon) cell ∧
        ofVisits.ComparesWith visits ⟨"day", "INTEGER", "", false⟩ (.date noon) cell := by
  refine ⟨ofVisits_reachable, rfl, rfl, rfl, by decide +kernel, ?_⟩
  rintro ⟨cell, writes, compares⟩
  cases writes.insert "visit" "day" rfl rfl
  cases compares.clause "visit" "day" "=" rfl rfl rfl none none

end Registry

end FilterStore
