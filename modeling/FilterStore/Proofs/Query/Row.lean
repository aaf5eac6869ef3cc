import FilterStore.Proofs.Query.Field
import FilterStore.Proofs.Value.Dates
import FilterStore.Proofs.Value.Record

/-!
# Rows read back

Reading a row goes back the way that writing it went.  Writing looks a column up for the affinity by
which it stores values, and reading looks it up again, by the name that writing left in the
statement.  Outside temporal columns a cell is the value it was written for.  In a temporal column
it is a date once more, provided that the notation of dates loses nothing: texts and counts of
seconds drop the fraction of a second, and the count zero is not read as a date at all.

So a record comes back as it was, with its columns under their registered names
(`decodeRow_compileInsert`).  No two of its fields may name one column, since a record read from a
row has one field for each name.
-/

namespace FilterStore

open Calendar (Instant)
open Text (lower sameName)

/-! ## Cells -/

namespace Registry

variable {r : Registry} {t : TableDefinition} {c : ColumnDefinition}

/-- The values of a column that are read back as they were written, whichever of the two notations
that are exact to the second dates are stored in. -/
def Restores (r : Registry) (c : ColumnDefinition) : Value → Prop
  | .null => True
  | .date d => c.temporal = true ∧ d.nanos = 0 ∧ (r.timestampAffinity = .integer → d.seconds ≠ 0)
  | .integer _ | .real _ | .text _ | .blob _ => c.temporal = false
  | .bool _ | .list _ | .object _ => False

/-- The value that is read from a cell of a column. -/
def readCell (r : Registry) (c : ColumnDefinition) (cell : Cell) : Value :=
  if c.temporal then cell.decode (r.affinityOf c) else cell.toValue

theorem exists_readCell_eq (exact : r.timestampAffinity = .integer ∨ r.timestampAffinity = .text)
    {v : Value} (hv : r.Restores c v) :
    ∃ cell, r.writtenCell c v = .ok cell ∧ r.readCell c cell = v := by
  cases v with
  | bool | list | object => cases hv
  | integer | real | text | blob =>
    have plain : c.temporal = false := hv
    exact ⟨_, rfl, by rw [readCell, plain]; rfl⟩
  | null =>
    refine ⟨.null, rfl, ?_⟩
    cases plain : c.temporal <;>
      simp [readCell, plain, Cell.decode, Cell.decodeNumber, Cell.toValue]
  | date d =>
    obtain ⟨temporal, whole, nonzero⟩ := hv
    refine ⟨Value.encodeDate d (r.affinityOf c), rfl, ?_⟩
    have affinity : r.affinityOf c = r.timestampAffinity := if_pos temporal
    rw [readCell, if_pos temporal, affinity]
    rcases exact with seconds | text
    · rw [seconds]
      exact Cell.decode_seconds whole (nonzero seconds)
    · rw [text]
      exact (Cell.decode_engineText d).trans (by rw [Instant.whole_of_nanos whole])

theorem Tidy.decodeCell_eq (hr : r.Tidy) (ht : t ∈ r.tables) (hc : c ∈ t.columns) (cell : Cell) :
    r.decodeCell (some t) c.name cell = r.readCell c cell := by
  rw [decodeCell, Option.bind_some, hr.column?_name ht hc]
  rfl

end Registry

/-! ## Rows -/

namespace Registry

variable {r : Registry} {table : String} {t : TableDefinition}

open Statement (Assigns)

theorem exists_cells_of_restores (hr : r.Tidy) (ht : t ∈ r.tables)
    (exact : r.timestampAffinity = .integer ∨ r.timestampAffinity = .text)
    {fs : List (String × Value)} {columns : List ColumnDefinition}
    (fields : List.Forall₂ (fun f c => t.column? f.1 = some c ∧ r.Restores c f.2) fs columns) :
    ∃ cells, List.Forall₂ (Assigns r t) fs cells ∧
      cells.map (·.1) = columns.map ColumnDefinition.name ∧
      ((columns.map ColumnDefinition.name).zip (cells.map (·.2))).map
          (fun (column, cell) => (column, r.decodeCell (some t) column cell)) =
        (columns.map ColumnDefinition.name).zip (fs.map (·.2)) := by
  induction fields with
  | nil => exact ⟨[], .nil, rfl, rfl⟩
  | @cons f c fs columns first _ ih =>
    obtain ⟨found, restores⟩ := first
    obtain ⟨cell, written, read⟩ := exists_readCell_eq exact restores
    obtain ⟨cells, assigns, names, values⟩ := ih
    refine ⟨(c.name, cell) :: cells, .cons ⟨c, found, rfl, written⟩ assigns, ?_, ?_⟩
    · rw [List.map_cons, names, List.map_cons]
    · simp only [List.map_cons, List.zip_cons_cons, values,
        hr.decodeCell_eq ht (Named.mem_of_find? found), read]

/-- Different columns have different names. -/
theorem distinct_names (hr : r.Tidy) (ht : t ∈ r.tables) {fs : List (String × Value)}
    {columns : List ColumnDefinition} (distinct : columns.Nodup)
    (fields : List.Forall₂ (fun f c => t.column? f.1 = some c ∧ r.Restores c f.2) fs columns) :
    Named.Distinct Prod.fst ((columns.map ColumnDefinition.name).zip (fs.map (·.2))) := by
  have known : ∀ c ∈ columns, c ∈ t.columns := by
    clear distinct
    induction fields with
    | nil => exact fun c hc => absurd hc List.not_mem_nil
    | cons first _ ih =>
      exact List.forall_mem_cons.mpr ⟨Named.mem_of_find? first.1, ih⟩
  have lengths : (columns.map ColumnDefinition.name).length ≤ (fs.map (·.2)).length := by
    rw [List.length_map, List.length_map, fields.length_eq]
  have names : ((columns.map ColumnDefinition.name).zip (fs.map (·.2))).map
      (fun f => lower f.1) = columns.map fun c => lower c.name := by
    have first := congrArg (List.map lower) (List.map_fst_zip lengths)
    rwa [List.map_map, List.map_map] at first
  rw [Named.Distinct, names]
  exact distinct.map_on fun c hc d hd same =>
    (hr.columns t ht).eq_of_sameName (known c hc) (known d hd) (Text.sameName_iff.mpr same)

/-- **A record is inserted, and the row is read back as the record.** -/
theorem decodeRow_compileInsert (hr : r.Reachable)
    (exact : r.timestampAffinity = .integer ∨ r.timestampAffinity = .text)
    (ht : r.table? table = some t) {record : Record} (filled : record.fields ≠ [])
    {columns : List ColumnDefinition} (distinct : columns.Nodup)
    (fields : List.Forall₂ (fun f c => t.column? f.1 = some c ∧ r.Restores c f.2) record.fields
      columns) :
    ∃ q, r.compileInsert table record = .ok q ∧
      q.sql = "INSERT INTO " ++ t.name ++ " (" ++
        ", ".intercalate (columns.map ColumnDefinition.name) ++ ") VALUES (" ++
          Query.marks columns.length ++ ")" ∧
      (r.decodeRow table (columns.map ColumnDefinition.name) q.values).fields =
        (columns.map ColumnDefinition.name).zip (record.fields.map (·.2)) := by
  have tidy := hr.consistent.toTidy
  have known := mem_tables_of_table? ht
  obtain ⟨cells, assigns, names, values⟩ := exists_cells_of_restores tidy known exact fields
  refine ⟨_, compileInsert_of_assigns tidy ht filled assigns, ?_, ?_⟩
  · have count : cells.length = columns.length := by
      have lengths := congrArg List.length names
      rwa [List.length_map, List.length_map] at lengths
    rw [names, count]
  · rw [decodeRow, ht, values]
    exact Record.fields_ofList (distinct_names tidy known distinct fields)

/-- A visit with its time and a note, the columns not spelled as they are registered. -/
def noted : Record := ⟨[("SEEN", .date noon), (" Note ", .text "rain")]⟩

theorem decodeRow_compileInsert_noted :
    ofVisits.Reachable ∧ ofVisits.timestampAffinity = .integer ∧
      ofVisits.table? " Visit" = some visits ∧ noted.fields ≠ [] ∧ visits.columns.tail.Nodup ∧
      List.Forall₂ (fun f c => visits.column? f.1 = some c ∧ ofVisits.Restores c f.2) noted.fields
        visits.columns.tail ∧
      ∃ q, ofVisits.compileInsert " Visit" noted = .ok q ∧
        q.sql = "INSERT INTO visit (seen, note) VALUES (?, ?)" ∧
        (ofVisits.decodeRow " Visit" ["seen", "note"] q.values).fields =
          [("seen", .date noon), ("note", .text "rain")] := by
  have affinity : ofVisits.timestampAffinity = .integer := by decide
  have table : ofVisits.table? " Visit" = some visits := by decide
  have filled : noted.fields ≠ [] := List.cons_ne_nil _ _
  have distinct : visits.columns.tail.Nodup := by decide
  have fields : List.Forall₂ (fun f c => visits.column? f.1 = some c ∧ ofVisits.Restores c f.2)
      noted.fields visits.columns.tail :=
    .cons ⟨by decide, rfl, rfl, fun _ => by decide⟩ (.cons ⟨by decide, rfl⟩ .nil)
  obtain ⟨q, compiled, sql, row⟩ :=
    decodeRow_compileInsert ofVisits_reachable (.inl affinity) table filled distinct fields
  exact ⟨ofVisits_reachable, affinity, table, filled, distinct, fields, q, compiled, sql, row⟩

end Registry

end FilterStore
