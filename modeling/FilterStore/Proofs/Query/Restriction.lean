import FilterStore.Proofs.Query.Binding

/-!
# One filter, several statements

Rows are counted, deleted, selected and updated by statements of their own, and all of them say by
the same filter which rows they mean.  Whoever counts rows before deleting them relies on it that
both mean the same ones.  So the filter has to be compiled to the same condition in each of them,
with the same cells, and where it is refused all of them have to be refused for the same reason.

That the condition is the same text is not enough.  The engine gives cells to placeholders by
counting, so what the condition says also depends on what stands before it.  What a statement means
is seen once its cells are in their places: its text with each placeholder replaced by the cell
it gets (`Query.filled`).  What stands before the condition is the *lead* of the statement.  A lead
that is aligned gets its own cells and no others, and so the condition, filled, is the same behind
every lead (`Query.Restricts.exists_filled`).
-/

namespace FilterStore

open Placeholder (Plain closing? step quoteAfter countFrom openAfter)
open Query (mark)

/-! ## Cells in their places -/

namespace Query

/-- Puts cells into the places of the placeholders of a text that starts inside the given quote. -/
def fillFrom : Option Char → List Char → List Cell → List (Char ⊕ Cell)
  | _, [], _ => []
  | quote, c :: rest, cells =>
    if quote = none ∧ c = '?' then
      (cells.head?.elim (.inl c) .inr) :: fillFrom (step quote c) rest cells.tail
    else .inl c :: fillFrom (step quote c) rest cells

/-- The text of a query with its cells in the places of its placeholders. -/
def filled (q : Query) : List (Char ⊕ Cell) := fillFrom none q.sql.toList q.values

/-- What follows a text gets the cells that the text leaves. -/
theorem fillFrom_append (quote : Option Char) (a b : List Char) (cells : List Cell) :
    fillFrom quote (a ++ b) cells = fillFrom quote a cells ++
      fillFrom (quoteAfter quote a) b (cells.drop (countFrom quote a)) := by
  induction a generalizing quote cells with
  | nil => rfl
  | cons c a ih =>
    have after : quoteAfter quote (c :: a) = quoteAfter (step quote c) a := rfl
    rw [List.cons_append, fillFrom, fillFrom, countFrom, after]
    by_cases mark : quote = none ∧ c = '?'
    · simp only [if_pos mark, ih, List.cons_append, List.drop_tail, Nat.add_comm 1]
    · simp only [if_neg mark, ih, List.cons_append, Nat.zero_add]

/-- Cells beyond the placeholders of a text do not get into it. -/
theorem fillFrom_append_cells {quote : Option Char} {cs : List Char} {cells : List Cell}
    (enough : countFrom quote cs ≤ cells.length) (more : List Cell) :
    fillFrom quote cs (cells ++ more) = fillFrom quote cs cells := by
  induction cs generalizing quote cells with
  | nil => rfl
  | cons c cs ih =>
    rw [countFrom] at enough
    rw [fillFrom, fillFrom]
    by_cases mark : quote = none ∧ c = '?'
    · rw [if_pos mark] at enough
      cases cells with
      | nil => exact absurd enough (by simp)
      | cons cell cells =>
        have fits : countFrom (step quote c) cs ≤ cells.length := by
          rw [List.length_cons] at enough
          omega
        have rest := ih fits
        simp only [if_pos mark, List.cons_append, List.head?_cons, List.tail_cons, rest]
    · rw [if_neg mark, Nat.zero_add] at enough
      simp only [if_neg mark, ih enough]

/-- **What stands behind an aligned query is filled as if it stood alone.** -/
theorem Aligned.filled_append {a : Query} (ha : a.Aligned) (b : Query) :
    (a ++ b).filled = a.filled ++ b.filled := by
  have arity : countFrom none a.sql.toList = a.values.length := ha.arity
  have closed : quoteAfter none a.sql.toList = none := ha.closed
  simp only [filled, sql_append, values_append, String.toList_append]
  rw [fillFrom_append, closed, arity, List.drop_left, fillFrom_append_cells (le_of_eq arity)]

/-- Text behind a query changes nothing in it. -/
theorem filled_prefix_append_text (q : Query) (s : String) : q.filled <+: (q ++ text s).filled := by
  have values : (q ++ text s).values = q.values := List.append_nil _
  rw [filled, filled, values, sql_append, String.toList_append, fillFrom_append]
  exact List.prefix_append ..

/-! ## Conditions in statements -/

/-- What a statement says of the rows it means; nothing if it means all rows. -/
def restriction : Option Query → Query
  | none => .empty
  | some condition => .text " WHERE " ++ condition

/-- A statement with a condition directly behind its lead, and with nothing but text behind the
condition. -/
structure Restricts (lead : Query) (condition : Option Query) (tail : String) (q : Query) :
    Prop where
  sql : q.sql = lead.sql ++ (restriction condition).sql ++ tail
  values : q.values = lead.values ++ (restriction condition).values
  /-- Behind an aligned lead the condition has its own cells. -/
  filled : lead.Aligned → lead.filled ++ (restriction condition).filled <+: q.filled

theorem restricts (lead : Query) (condition : Option Query) (tail : String) :
    Restricts lead condition tail (lead ++ restriction condition ++ text tail) where
  sql := rfl
  values := List.append_nil _
  filled aligned := by
    rw [append_assoc, aligned.filled_append]
    exact (List.prefix_append_right_inj _).mpr (filled_prefix_append_text ..)

theorem restricts_without_tail (lead : Query) (condition : Option Query) :
    Restricts lead condition "" (lead ++ restriction condition) := by
  have whole := restricts lead condition ""
  rwa [show (text "" : Query) = .empty from rfl, append_empty] at whole

end Query

/-! ## Leads -/

namespace Statement

open Query (Woven Aligned)

/-- What stands before the condition of a count. -/
def countLead (t : TableDefinition) : Query := .text ("SELECT COUNT(*) FROM " ++ t.name)

/-- What stands before the condition of a deletion. -/
def deleteLead (t : TableDefinition) : Query := .text ("DELETE FROM " ++ t.name)

/-- What stands before the condition of a selection. -/
def selectLead (t : TableDefinition) (columns : Query) : Query :=
  .text "SELECT " ++ columns ++ .text (" FROM " ++ t.name)

/-- What stands before the condition of an update. -/
def updateLead (t : TableDefinition) (fields : List (String × Cell)) : Query :=
  ⟨"UPDATE " ++ t.name ++ " SET " ++ ", ".intercalate (fields.map fun f => f.1 ++ " = ?"),
    fields.map (·.2)⟩

variable {r : Registry} {t : TableDefinition}

theorem aligned_countLead (ht : t.WellNamed) : (countLead t).Aligned :=
  Query.aligned_text (Plain.append (by decide : Plain "SELECT COUNT(*) FROM ") ht.plain_name)

theorem aligned_deleteLead (ht : t.WellNamed) : (deleteLead t).Aligned :=
  Query.aligned_text (Plain.append (by decide : Plain "DELETE FROM ") ht.plain_name)

/-- The lead of a selection is aligned if the raw clauses among its columns are. -/
theorem aligned_selectLead (ht : t.WellNamed) {selectors : List Selector} {columns : Query}
    (h : selectList t selectors = .ok columns)
    (sound : ∀ raw ∈ selectedRaws selectors, raw.Accepted ∧ raw.Closed) :
    (selectLead t columns).Aligned := by
  have woven := ((woven_selectList ht h).prepend (by decide : Plain "SELECT ")).append_text
    (Plain.append (by decide : Plain " FROM ") ht.plain_name)
  refine woven.aligned fun part hpart => ?_
  obtain ⟨raw, hraw, rfl⟩ := List.mem_map.mp hpart
  exact RawClause.aligned_verbatim (sound raw hraw).1 (sound raw hraw).2

theorem aligned_updateLead (ht : t.WellNamed) {index : Nat} {record : List (String × Value)}
    {cells : List (String × Cell)} (h : fields r t index record = .ok cells) :
    (updateLead t cells).Aligned :=
  (woven_assignments ht h).aligned_of_marks

/-- The cells of a list of columns are those of the raw clauses in it. -/
theorem values_selectList {selectors : List Selector} {columns : Query}
    (h : selectList t selectors = .ok columns) :
    columns.values = (selectedRaws selectors).flatMap RawClause.values := by
  have one : ∀ {s : Selector} {q : Query}, selected t s = .ok q →
      q.values = s.raw?.toList.flatMap RawClause.values := by
    intro s q h
    cases s with
    | raw raw =>
      cases h
      exact (List.append_nil _).symm
    | column name =>
      rw [selected] at h
      split at h
      · cases h
        rfl
      · split at h
        · cases h
          rfl
        · cases h
  have all : ∀ {selectors : List Selector} {qs : List Query},
      selectors.mapM (selected t) = .ok qs →
        (commaSeparated qs).values = (selectedRaws selectors).flatMap RawClause.values := by
    intro selectors
    induction selectors with
    | nil =>
      intro qs h
      cases h
      rfl
    | cons s rest ih =>
      intro qs h
      rw [List.mapM_cons, bind_eq_ok_iff] at h
      obtain ⟨q, hq, h⟩ := h
      obtain ⟨others, hothers, h⟩ := bind_eq_ok_iff.mp h
      cases h
      have raws : selectedRaws (s :: rest) = s.raw?.toList ++ selectedRaws rest := by
        rw [selectedRaws, List.filterMap_cons]
        cases s <;> rfl
      rw [raws, List.flatMap_append, ← one hq, ← ih hothers]
      cases others with
      | nil => exact (List.append_nil _).symm
      | cons other others => simp [commaSeparated]
  unfold selectList at h
  split at h
  · rename_i empty
    cases h
    rw [List.isEmpty_iff.mp empty]
    rfl
  · obtain ⟨qs, hqs, rfl⟩ := map_eq_ok_iff.mp h
    exact all hqs

end Statement

/-! ## Statements of one filter -/

namespace Registry

open Query (restriction Restricts)
open Statement

variable {r : Registry} {table : String} {t : TableDefinition} {spec : Spec}

/-- The filter of a statement is compiled as it is on its own. -/
theorem whereClause_eq_map (ht : r.table? table = some t) (spec : Spec) :
    r.whereClause t spec =
      (r.compileWhere table spec.filter spec.connective).map restriction := by
  have found : r.target table = .ok t := target_eq_ok_iff.mpr ht
  unfold whereClause compileWhere
  rw [found]
  by_cases empty : spec.filter.isEmpty = true
  · simp only [if_pos empty]
    rfl
  · simp only [if_neg empty]
    show _ = ((Condition.compile r t spec.joining spec.filter).map some).map restriction
    cases Condition.compile r t spec.joining spec.filter <;> rfl

/-- A filter that is refused is refused in every statement whose lead is not. -/
theorem error_of_compileWhere (ht : r.table? table = some t) {e : Error}
    (h : r.compileWhere table spec.filter spec.connective = .error e) (record : Record) :
    r.compileCount table spec = .error e ∧ r.compileDelete table spec = .error e ∧
      (∀ columns, selectList t spec.columns = .ok columns →
        r.compileSelect table spec = .error e) ∧
      ∀ cells, record.isEmpty = false → fields r t 0 record.fields = .ok cells →
        r.compileUpdate table record spec = .error e := by
  have found : r.target table = .ok t := target_eq_ok_iff.mpr ht
  have refused : r.whereClause t spec = .error e := by
    rw [whereClause_eq_map ht, h]
    rfl
  refine ⟨?_, ?_, fun columns hcolumns => ?_, fun cells some hcells => ?_⟩
  · rw [compileCount, found]
    simp only [bind, Except.bind, refused]
  · rw [compileDelete, found]
    simp only [bind, Except.bind, refused]
  · rw [compileSelect, found]
    simp only [bind, Except.bind, hcolumns, refused]
  · rw [compileUpdate, found]
    simp only [bind, Except.bind, some, hcells, refused, Bool.false_eq_true, if_false]

theorem exists_condition_of_whereClause (ht : r.table? table = some t) {q : Query}
    (h : r.whereClause t spec = .ok q) :
    ∃ condition, r.compileWhere table spec.filter spec.connective = .ok condition ∧
      restriction condition = q := by
  rw [whereClause_eq_map ht] at h
  exact map_eq_ok_iff.mp h

theorem restricts_of_compileSelect (ht : r.table? table = some t) {q : Query}
    (h : r.compileSelect table spec = .ok q) :
    ∃ condition columns order,
      r.compileWhere table spec.filter spec.connective = .ok condition ∧
      selectList t spec.columns = .ok columns ∧ orderClause t spec.order = .ok order ∧
      Restricts (selectLead t columns) condition (order ++ limitClause spec.limit) q := by
  obtain ⟨u, found, h⟩ := bind_eq_ok_iff.mp h
  rw [target_eq_ok_iff, ht] at found
  cases found
  obtain ⟨columns, hcolumns, h⟩ := bind_eq_ok_iff.mp h
  obtain ⟨_, hcondition, h⟩ := bind_eq_ok_iff.mp h
  obtain ⟨order, horder, h⟩ := bind_eq_ok_iff.mp h
  obtain ⟨condition, compiled, rfl⟩ := exists_condition_of_whereClause ht hcondition
  cases h
  exact ⟨condition, columns, order, compiled, hcolumns, horder, Query.restricts ..⟩

theorem restricts_of_compileUpdate (ht : r.table? table = some t) {record : Record} {q : Query}
    (h : r.compileUpdate table record spec = .ok q) :
    ∃ condition cells, r.compileWhere table spec.filter spec.connective = .ok condition ∧
      fields r t 0 record.fields = .ok cells ∧ Restricts (updateLead t cells) condition "" q := by
  obtain ⟨u, found, h⟩ := bind_eq_ok_iff.mp h
  rw [target_eq_ok_iff, ht] at found
  cases found
  split at h
  · cases h
  · obtain ⟨cells, hcells, h⟩ := bind_eq_ok_iff.mp h
    obtain ⟨_, hcondition, h⟩ := bind_eq_ok_iff.mp h
    obtain ⟨condition, compiled, rfl⟩ := exists_condition_of_whereClause ht hcondition
    cases h
    exact ⟨condition, cells, compiled, hcells, Query.restricts_without_tail ..⟩

/-- Counts and deletions have nothing but their filter that can be refused. -/
theorem restricts_of_compileWhere (ht : r.table? table = some t) {condition : Option Query}
    (h : r.compileWhere table spec.filter spec.connective = .ok condition) :
    (∃ q, r.compileCount table spec = .ok q ∧ Restricts (countLead t) condition "" q) ∧
      ∃ q, r.compileDelete table spec = .ok q ∧ Restricts (deleteLead t) condition "" q := by
  have found : r.target table = .ok t := target_eq_ok_iff.mpr ht
  have compiled : r.whereClause t spec = .ok (restriction condition) := by
    rw [whereClause_eq_map ht, h]
    rfl
  refine ⟨⟨countLead t ++ restriction condition, ?_, Query.restricts_without_tail ..⟩,
    ⟨deleteLead t ++ restriction condition, ?_, Query.restricts_without_tail ..⟩⟩
  · rw [compileCount, found]
    simp only [bind, Except.bind, compiled]
    rfl
  · rw [compileDelete, found]
    simp only [bind, Except.bind, compiled]
    rfl

/-- **The statements of one filter all say which rows they mean by the same condition, or are all
refused for the same reason.**  The text of the condition stands directly behind the lead of each
statement, and its cells behind those of the lead.  The leads of well-named tables are aligned, that
of a selection as long as the raw clauses among its columns are sound; so the condition, filled, is
the same in all of them. -/
theorem restricts_of_compile (r : Registry) (table : String) (t : TableDefinition)
    (ht : r.table? table = some t) (spec : Spec) (record : Record) :
    (∀ e, r.compileWhere table spec.filter spec.connective = .error e →
      r.compileCount table spec = .error e ∧ r.compileDelete table spec = .error e ∧
      (∀ columns, selectList t spec.columns = .ok columns →
        r.compileSelect table spec = .error e) ∧
      ∀ cells, record.isEmpty = false → fields r t 0 record.fields = .ok cells →
        r.compileUpdate table record spec = .error e) ∧
    (∀ condition, r.compileWhere table spec.filter spec.connective = .ok condition →
      (∃ q, r.compileCount table spec = .ok q ∧ Restricts (countLead t) condition "" q) ∧
      ∃ q, r.compileDelete table spec = .ok q ∧ Restricts (deleteLead t) condition "" q) ∧
    (∀ q, r.compileSelect table spec = .ok q → ∃ condition columns order,
      r.compileWhere table spec.filter spec.connective = .ok condition ∧
      selectList t spec.columns = .ok columns ∧
      columns.values = (selectedRaws spec.columns).flatMap RawClause.values ∧
      Restricts (selectLead t columns) condition (order ++ limitClause spec.limit) q) ∧
    (∀ q, r.compileUpdate table record spec = .ok q → ∃ condition cells,
      r.compileWhere table spec.filter spec.connective = .ok condition ∧
      fields r t 0 record.fields = .ok cells ∧ Restricts (updateLead t cells) condition "" q) ∧
    (t.WellNamed → (countLead t).Aligned ∧ (deleteLead t).Aligned ∧
      (∀ columns, selectList t spec.columns = .ok columns →
        (∀ raw ∈ selectedRaws spec.columns, raw.Accepted ∧ raw.Closed) →
        (selectLead t columns).Aligned) ∧
      ∀ cells, fields r t 0 record.fields = .ok cells → (updateLead t cells).Aligned) := by
  refine ⟨fun e h => error_of_compileWhere ht h record, fun _ h => restricts_of_compileWhere ht h,
    fun q h => ?_, fun q h => restricts_of_compileUpdate ht h, fun named => ?_⟩
  · obtain ⟨condition, columns, order, compiled, hcolumns, -, restricted⟩ :=
      restricts_of_compileSelect ht h
    exact ⟨condition, columns, order, compiled, hcolumns, values_selectList hcolumns, restricted⟩
  · exact ⟨aligned_countLead named, aligned_deleteLead named,
      fun _ h sound => aligned_selectLead named h sound, fun _ h => aligned_updateLead named h⟩

/-- Users over eighteen, or else those of whom just one holds: that they live in Berlin, and that
they are under five. -/
def ofAgeOrCity : Spec := ⟨ageOrCity.flatten, [], none, some .xor, []⟩

theorem restricts_of_compile_ofAgeOrCity :
    let condition : Query := ⟨"(age > ?) OR ((city = ?) <> (age < ?))",
      [.integer 18, .text "Berlin", .integer 5]⟩
    ofUsers.table? "user" = some users ∧
      ofUsers.compileWhere "user" ofAgeOrCity.filter ofAgeOrCity.connective = .ok (some condition) ∧
      (∃ q, ofUsers.compileDelete "user" ofAgeOrCity = .ok q ∧
        Restricts (deleteLead users) (some condition) "" q) ∧
      ∃ columns order, Restricts (selectLead users columns) (some condition) order
        ⟨"SELECT age, city FROM user WHERE (age > ?) OR ((city = ?) <> (age < ?))",
          condition.values⟩ := by
  intro condition
  have ht : ofUsers.table? "user" = some users := rfl
  have compiled : ofUsers.compileWhere "user" ofAgeOrCity.filter ofAgeOrCity.connective =
      .ok (some condition) := rfl
  obtain ⟨-, counted, selected, -⟩ :=
    restricts_of_compile ofUsers "user" users ht ofAgeOrCity .empty
  obtain ⟨found, columns, order, compiled', -, -, restricted⟩ := selected
    ⟨"SELECT age, city FROM user WHERE (age > ?) OR ((city = ?) <> (age < ?))",
      condition.values⟩ rfl
  cases compiled.symm.trans compiled'
  exact ⟨ht, compiled, (counted _ compiled).2, columns, _, restricted⟩

end Registry

end FilterStore
