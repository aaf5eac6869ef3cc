import FilterStore.Proofs.Query.Field
import FilterStore.Store.Session

/-!
# A column for every value

No two fields of a record have one name, and no two columns of a table.  That does not give every
field a column of its own, because the two do not mean the same by a name.  A record compares the
names of its fields as they are written, up to case, while a table drops the blanks around a name
before it looks for the column.  Up to case, a field is written to the column of its name without
blanks (`Statement.lower_of_assigns`).  So the statements for a record write no column twice exactly
if its names differ even without the blanks around them (`Registry.writesOnce_iff`).

The engine accepts a column that is written twice.  It keeps the first value of an insertion and the
last one of an update.
-/

namespace FilterStore

open Text (lower trim)

namespace Statement

/-! ## Columns of fields -/

variable {r : Registry} {t : TableDefinition} {f : String × Value} {cell : String × Cell}

/-- A field is written to the column of its name, blanks and case aside. -/
theorem lower_of_assigns (h : Assigns r t f cell) : lower cell.1 = lower (trim f.1) := by
  obtain ⟨c, found, named, -⟩ := h
  rw [named]
  exact Text.sameName_iff.mp (Named.sameName_of_find? found)

/-- **Fields are written to different columns if their names differ without blanks.** -/
theorem distinct_iff_of_assigns {fs : List (String × Value)} {cells : List (String × Cell)}
    (h : List.Forall₂ (Assigns r t) fs cells) :
    Named.Distinct Prod.fst cells ↔ Named.Distinct (fun f => trim f.1) fs := by
  have names : cells.map (fun cell => lower cell.1) = fs.map fun f => lower (trim f.1) := by
    induction h with
    | nil => rfl
    | cons first _ ih => rw [List.map_cons, List.map_cons, lower_of_assigns first, ih]
  rw [Named.Distinct, Named.Distinct, names]

/-! ## Statements that write -/

/-- Inserts cells into columns of a table. -/
def insertion (t : TableDefinition) (cells : List (String × Cell)) : Query :=
  if cells.isEmpty then .text ("INSERT INTO " ++ t.name ++ " DEFAULT VALUES")
  else ⟨"INSERT INTO " ++ t.name ++ " (" ++ ", ".intercalate (cells.map (·.1)) ++ ") VALUES (" ++
    Query.marks cells.length ++ ")", cells.map (·.2)⟩

/-- Sets columns of a table to cells; a condition may follow. -/
def setting (t : TableDefinition) (cells : List (String × Cell)) : Query :=
  ⟨"UPDATE " ++ t.name ++ " SET " ++ ", ".intercalate (cells.map fun f => f.1 ++ " = ?"),
    cells.map (·.2)⟩

end Statement

namespace Registry

open Statement (Assigns insertion setting)

variable {r : Registry} {table : String} {record : Record} {q : Query}

theorem exists_of_compileInsert (hr : r.Tidy) (h : r.compileInsert table record = .ok q) :
    ∃ t cells, r.table? table = some t ∧ List.Forall₂ (Assigns r t) record.fields cells ∧
      q = insertion t cells := by
  obtain ⟨t, target, h⟩ := bind_eq_ok_iff.mp h
  have ht := target_eq_ok_iff.mp target
  split at h
  · rename_i empty
    have noField : record.fields = [] := List.isEmpty_iff.mp empty
    cases h
    exact ⟨t, [], ht, noField ▸ .nil, rfl⟩
  · rename_i filled
    obtain ⟨cells, hcells, h⟩ := bind_eq_ok_iff.mp h
    have assigns := (Statement.fields_eq_ok_iff hr (mem_tables_of_table? ht)).mp hcells
    have aCell : ¬ cells.isEmpty := by
      rwa [List.isEmpty_iff_length_eq_zero, ← assigns.length_eq, ← List.isEmpty_iff_length_eq_zero]
    cases h
    exact ⟨t, cells, ht, assigns, (if_neg aCell).symm⟩

theorem exists_of_compileUpdate (hr : r.Tidy) {spec : Spec}
    (h : r.compileUpdate table record spec = .ok q) :
    record.fields ≠ [] ∧ ∃ t cells condition, r.table? table = some t ∧
      List.Forall₂ (Assigns r t) record.fields cells ∧ r.whereClause t spec = .ok condition ∧
        q = setting t cells ++ condition := by
  obtain ⟨t, target, h⟩ := bind_eq_ok_iff.mp h
  have ht := target_eq_ok_iff.mp target
  split at h
  · cases h
  · rename_i filled
    obtain ⟨cells, hcells, h⟩ := bind_eq_ok_iff.mp h
    obtain ⟨condition, hcondition, h⟩ := bind_eq_ok_iff.mp h
    have assigns := (Statement.fields_eq_ok_iff hr (mem_tables_of_table? ht)).mp hcells
    cases h
    exact ⟨fun empty => filled (List.isEmpty_iff.mpr empty), t, cells, condition, ht, assigns,
      hcondition, rfl⟩

/-! ## Each column once -/

/-- Statements that write a record to a table have a cell for each of its fields, and write no
column twice. -/
structure WritesOnce (r : Registry) (table : String) (record : Record) : Prop where
  insert : ∀ q, r.compileInsert table record = .ok q → ∃ t cells, r.table? table = some t ∧
    List.Forall₂ (Assigns r t) record.fields cells ∧ q = insertion t cells ∧
      Named.Distinct Prod.fst cells
  update : ∀ spec q, r.compileUpdate table record spec = .ok q → ∃ t cells condition,
    r.table? table = some t ∧ List.Forall₂ (Assigns r t) record.fields cells ∧
      r.whereClause t spec = .ok condition ∧ q = setting t cells ++ condition ∧
        Named.Distinct Prod.fst cells

/-- **An accepted record is written to different columns exactly if the names of its fields differ
without the blanks around them.** -/
theorem writesOnce_iff (hr : r.Reachable) (table : String) (record : Record) :
    r.WritesOnce table record ↔
      ((∃ q, r.compileInsert table record = .ok q) →
        Named.Distinct (fun f => trim f.1) record.fields) := by
  have tidy := hr.consistent.toTidy
  constructor
  · rintro once ⟨q, hq⟩
    obtain ⟨t, cells, -, assigns, -, distinct⟩ := once.insert q hq
    exact (Statement.distinct_iff_of_assigns assigns).mp distinct
  · intro h
    constructor
    · intro q hq
      obtain ⟨t, cells, ht, assigns, rfl⟩ := exists_of_compileInsert tidy hq
      exact ⟨t, cells, ht, assigns, rfl,
        (Statement.distinct_iff_of_assigns assigns).mpr (h ⟨_, hq⟩)⟩
    · intro spec q hq
      obtain ⟨filled, t, cells, condition, ht, assigns, hcondition, rfl⟩ :=
        exists_of_compileUpdate tidy hq
      -- What can be updated can be inserted.
      have accepted := h ⟨_, compileInsert_of_assigns tidy ht filled assigns⟩
      exact ⟨t, cells, condition, ht, assigns, hcondition, rfl,
        (Statement.distinct_iff_of_assigns assigns).mpr accepted⟩

/-- A time and a note, however they are spelled, are two columns. -/
theorem writesOnce_visit :
    ofVisits.Reachable ∧
      ofVisits.compileInsert "visit" ⟨[(" Seen", .null), ("NOTE", .text "rain")]⟩ =
        .ok ⟨"INSERT INTO visit (seen, note) VALUES (?, ?)", [.null, .text "rain"]⟩ ∧
      ofVisits.WritesOnce "visit" ⟨[(" Seen", .null), ("NOTE", .text "rain")]⟩ := by
  refine ⟨ofVisits_reachable, rfl, (writesOnce_iff ofVisits_reachable _ _).mpr fun _ => ?_⟩
  show List.Nodup _
  decide

/-- A record with two notes, one of them under a name with a blank in front. -/
def twoNotes (first second : String) : Record :=
  .ofList [("note", .text first), (" note", .text second)]

/-- Inserts two notes in one record into an empty database, sets two others, and answers which notes
are there after each step. -/
def noteTwice : Action (List (Option String) × List (Option String)) := do
  for sql in ofVisits.createStatements do
    Action.batch sql
  let session : Session := ⟨ofVisits, [], false⟩
  let note : Record → Option String := fun row => (row.get? "note").bind Value.text?
  let _ ← session.insert "visit" (twoNotes "first" "second")
  let inserted ← session.search "visit" .empty
  let _ ← session.update "visit" (twoNotes "third" "fourth") .empty
  let updated ← session.search "visit" .empty
  pure (inserted.map note, updated.map note)

/-- To a record two names are different if one has a blank in front, but they are one column, and of
the two values the database has one. -/
theorem not_writesOnce_twoNotes :
    ofVisits.Reachable ∧
      (twoNotes "first" "second").fields = [("note", .text "first"), (" note", .text "second")] ∧
      ofVisits.compileInsert "visit" (twoNotes "first" "second") =
        .ok ⟨"INSERT INTO visit (note, note) VALUES (?, ?)", [.text "first", .text "second"]⟩ ∧
      ofVisits.compileUpdate "visit" (twoNotes "third" "fourth") .empty =
        .ok ⟨"UPDATE visit SET note = ?, note = ?", [.text "third", .text "fourth"]⟩ ∧
      (noteTwice.run (.ofDatabase .empty noon)).1.toOption =
        some ([some "first"], [some "fourth"]) ∧
      ¬ ofVisits.WritesOnce "visit" (twoNotes "first" "second") := by
  refine ⟨ofVisits_reachable, rfl, rfl, rfl, by decide +kernel, fun once => ?_⟩
  obtain ⟨t, cells, -, assigns, -, distinct⟩ := once.insert _ rfl
  have apart : List.Nodup _ := (Statement.distinct_iff_of_assigns assigns).mp distinct
  revert apart
  decide

end Registry

end FilterStore
