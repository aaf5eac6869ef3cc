import FilterStore.Proofs.Engine.Execution
import FilterStore.Proofs.Engine.Selection
import FilterStore.Proofs.Sql.RowStatement

/-!
# Reading whole rows

The query for all columns of a table answers the cells of all its rows, in their order.  For that a
name has to lead to its own column, so no two columns may have the same name up to case, and every
row has to have a cell for each.
-/

namespace FilterStore.Engine

open Sql (Column Expr NulFree Parsed Projection Select Shows Source always rowQuery)
open Text (sameName)

/-- What a definition of a table sees to: it has columns, whose names are different, and which are
names. -/
structure Table.Proper (t : Table) : Prop where
  nonempty : t.columns ≠ []
  distinct : t.columns.Pairwise fun a b => sameName a.name b.name = false
  name : NulFree t.name
  columnNames : ∀ c ∈ t.columns, NulFree c.name

/-! ## Names of columns -/

/-- Among columns of different names, each is found at its place. -/
theorem columnAt?_getElem {shapes : List ColumnShape}
    (distinct : shapes.Pairwise fun a b => sameName a.name b.name = false) (start : Nat) {i : Nat}
    (hi : i < shapes.length) :
    columnAt? shapes[i].name start shapes = some (.cell (start + i) shapes[i]) := by
  induction shapes generalizing start i with
  | nil => exact absurd hi (Nat.not_lt_zero i)
  | cons shape shapes ih =>
    obtain ⟨first, others⟩ := List.pairwise_cons.mp distinct
    unfold columnAt?
    cases i with
    | zero => simp [Text.sameName_refl]
    | succ i =>
      have hi := Nat.lt_of_succ_lt_succ hi
      have other := first shapes[i] (List.getElem_mem _)
      rw [List.getElem_cons_succ, other, if_neg Bool.false_ne_true, ih others (start + 1) hi,
        Nat.add_assoc, Nat.add_comm 1 i]

theorem names_columnShapes (t : Table) :
    t.columnShapes.map ColumnShape.name = t.columns.map Column.name := by
  unfold Table.columnShapes
  rw [List.map_map]
  rfl

/-- The cell of a row in the column of a name. -/
def Table.cellNamed (t : Table) (row : Row) (name : String) : Cell :=
  ((columnAt? name 0 t.columnShapes).map fun target => target.cellOf row).getD .null

namespace Table.Proper

variable {t : Table} (h : t.Proper)

include h

theorem distinctShapes :
    t.columnShapes.Pairwise fun a b => sameName a.name b.name = false :=
  List.pairwise_map.mpr h.distinct

theorem exists_columnAt? {name : String} (hname : name ∈ t.columns.map Column.name) :
    ∃ target, columnAt? name 0 t.columnShapes = some target := by
  rw [← names_columnShapes] at hname
  obtain ⟨i, hi, rfl⟩ := List.getElem_of_mem hname
  rw [List.length_map] at hi
  rw [List.getElem_map]
  exact ⟨_, columnAt?_getElem h.distinctShapes 0 hi⟩

/-- The cells of a row, column by column. -/
theorem map_cellNamed {row : Row} (width : row.cells.length = t.columns.length) :
    (t.columns.map Column.name).map (t.cellNamed row) = row.cells := by
  have shapes : t.columnShapes.length = t.columns.length := List.length_map _
  rw [← names_columnShapes, List.map_map]
  refine List.ext_getElem (by rw [List.length_map, shapes, width]) fun i hi hi' => ?_
  rw [List.length_map] at hi
  have found := columnAt?_getElem h.distinctShapes 0 hi
  rw [Nat.zero_add] at found
  have cell : row.cells.getD i .null = row.cells[i] := by
    rw [List.getD_eq_getElem?_getD, List.getElem?_eq_getElem hi']
    rfl
  rw [List.getElem_map, Function.comp_apply, cellNamed, found]
  exact cell

variable {shape : Shape} (columns : shape.columns = t.columnShapes)
  (free : shape.qualified = false)

include columns free

theorem target?_isSome {name : String} (hname : name ∈ t.columns.map Column.name) (quoted : Bool)
    (offset : Nat) (outer : List Shape) :
    (target? (shape :: outer) ⟨none, name, quoted, offset⟩).isSome := by
  obtain ⟨target, found⟩ := h.exists_columnAt? hname
  unfold Engine.target? Shape.target? Shape.answers
  simp [columns, free, found]

theorem eval_column {name : String} (hname : name ∈ t.columns.map Column.name) (row : Row)
    (w : World) (quoted : Bool) (offset : Nat) (outer : List Frame) :
    eval w .value (⟨shape, row⟩ :: outer) [] (.column ⟨none, name, quoted, offset⟩) =
      .ok (t.cellNamed row name) := by
  obtain ⟨target, found⟩ := h.exists_columnAt? hname
  have cell : cell? (⟨shape, row⟩ :: outer) ⟨none, name, quoted, offset⟩ =
      some (t.cellNamed row name) := by
    unfold cell? Shape.target? Shape.answers cellNamed
    simp [columns, free, found]
  have unfolded : eval w .value (⟨shape, row⟩ :: outer) [] (.column ⟨none, name, quoted, offset⟩) =
    columnValue (⟨shape, row⟩ :: outer) ⟨none, name, quoted, offset⟩ := rfl
  rw [unfolded, columnValue, cell]

/-- The columns of a table give the cells of a row. -/
theorem project_columns {names : List String} {ps : List Projection}
    (hnames : ∀ name ∈ names, name ∈ t.columns.map Column.name)
    (shows : List.Forall₂ Shows names ps) (row : Row) (w : World) (outer : List Frame) :
    project w (⟨shape, row⟩ :: outer) [] ps = .ok (names.map (t.cellNamed row)) := by
  induction shows with
  | nil => rfl
  | @cons name p names ps first _ ih =>
    obtain ⟨offset, heading, rfl⟩ := first
    have rest := ih fun name hname => hnames name (List.mem_cons_of_mem _ hname)
    unfold project
    rw [h.eval_column columns free (hnames name List.mem_cons_self), rest]
    rfl

theorem checkColumns_shows {names : List String} {ps : List Projection}
    (hnames : ∀ name ∈ names, name ∈ t.columns.map Column.name)
    (shows : List.Forall₂ Shows names ps) (w : World) (outer : List Shape) :
    checkColumns w (shape :: outer) ps = .ok () := by
  induction shows with
  | nil => rfl
  | @cons name p names ps first _ ih =>
    obtain ⟨offset, heading, rfl⟩ := first
    have rest := ih fun name hname => hnames name (List.mem_cons_of_mem _ hname)
    have found := h.target?_isSome columns free (hnames name List.mem_cons_self) true offset outer
    have search : searchExpr w (shape :: outer) true none (.column ⟨none, name, true, offset⟩) =
        ⟨none, true⟩ := by
      unfold searchExpr
      simp only [found, Bool.true_or, if_true]
      rfl
    unfold checkColumns
    rw [search, rest]
    rfl

end Table.Proper

/-! ## The query -/

/-- A name or a literal. -/
def IsAtom (e : Expr) : Prop := (∃ name, e = .column name) ∨ ∃ c, e = .literal c

theorem IsAtom.query?_eq_none {e : Expr} (h : IsAtom e) : e.query? = none := by
  rcases h with ⟨name, rfl⟩ | ⟨c, rfl⟩ <;> rfl

theorem IsAtom.compares_eq_false {e : Expr} (h : IsAtom e) : compares e = false := by
  rcases h with ⟨name, rfl⟩ | ⟨c, rfl⟩ <;> rfl

section Shows

variable {table : String} {names : List String} {ps : List Projection}
  (shows : List.Forall₂ Shows names ps)

include shows

/-- There are no functions of a group among columns. -/
theorem hasGroup_shows : Sql.hasGroup ps = false := by
  induction shows with
  | nil => rfl
  | cons first _ ih =>
    obtain ⟨offset, heading, rfl⟩ := first
    exact ih

theorem isAtom_of_mem_partsOfColumns {e : Expr} (he : e ∈ Sql.partsOfColumns ps) : IsAtom e := by
  induction shows with
  | nil => cases he
  | cons first _ ih =>
    obtain ⟨offset, heading, rfl⟩ := first
    rcases List.mem_cons.mp he with rfl | he
    · exact .inl ⟨_, rfl⟩
    · exact ih he

/-- There is nothing but names and literals in the query for columns. -/
theorem isAtom_of_mem_within {e : Expr} (he : e ∈ (rowQuery table ps).within) : IsAtom e := by
  have parts : (rowQuery table ps).within =
    Sql.partsOfColumns ps ++ [always, always, Sql.unlimited, Sql.noOffset] := by
    unfold rowQuery Sql.namedSelect Sql.Select.within
    simp only [List.append_assoc]
    rfl
  rw [parts] at he
  rcases List.mem_append.mp he with he | he
  · exact isAtom_of_mem_partsOfColumns shows he
  · simp only [List.mem_cons, List.not_mem_nil, or_false] at he
    rcases he with rfl | rfl | rfl | rfl <;> exact .inr ⟨_, rfl⟩

theorem queries_rowQuery : (rowQuery table ps).queries = [rowQuery table ps] := by
  have none : (rowQuery table ps).within.filterMap Expr.query? = [] :=
    List.filterMap_eq_nil_iff.mpr fun e he => (isAtom_of_mem_within shows he).query?_eq_none
  unfold Sql.Select.queries
  rw [none]

theorem checkQueryCollations_rowQuery : checkQueryCollations (rowQuery table ps) = .ok () := by
  have none : ([Expr.hasRows (rowQuery table ps)].flatMap (Expr.parts true)).filter compares =
      [] := by
    refine List.filter_eq_nil_iff.mpr fun e he => ?_
    rcases List.mem_cons.mp (by simpa [Expr.parts, Expr.within] using he) with rfl | he
    · exact Bool.false_ne_true
    · rw [(isAtom_of_mem_within shows he).compares_eq_false]
      exact Bool.false_ne_true
  unfold checkQueryCollations checkComparisons
  rw [none, queries_rowQuery shows]
  rfl

theorem forM_checkAll (own : List Shape) : ps.forM (checkAll own) = .ok () := by
  induction shows with
  | nil => rfl
  | cons first _ ih =>
    obtain ⟨offset, heading, rfl⟩ := first
    exact ih

end Shows

/-- What the query is made of.  As it has no groups, its guide does not matter. -/
theorem exists_rowQuery_eq (table : String) (ps : List Projection) :
    ∃ guide, rowQuery table ps = .mk false ps (some ⟨table, table⟩) always [] always [] guide
      Sql.unlimited Sql.noOffset := ⟨_, rfl⟩

section Rows

variable {t : Table} {w : World} {r : Relation} {ps : List Projection}

theorem checkSelect_rowQuery (h : t.Proper) (hw : w.relation t.name = .ok r)
    (hr : r.columns = t.columnShapes)
    (shows : List.Forall₂ Shows (t.columns.map Column.name) ps) :
    checkSelect w [] (rowQuery t.name ps) = .ok () := by
  have own : sourceShapes w (some ⟨t.name, t.name⟩) = [r.shape t.name] :=
    sourceShapes_of_relation hw
  have table : checkTable w (rowQuery t.name ps) = .ok () := by
    have unfolded : checkTable w (rowQuery t.name ps) =
      (checkSource w (some ⟨t.name, t.name⟩) >>= fun own => ps.forM (checkAll own)) := rfl
    have source : checkSource w (some ⟨t.name, t.name⟩) = .ok [r.shape t.name] := by
      simp [checkSource, hw, Except.map]
    rw [unfolded, source]
    exact forM_checkAll shows _
  have tables : (rowQuery t.name ps).queries.forM (checkTable w) = .ok () := by
    rw [queries_rowQuery shows]
    show (checkTable w (rowQuery t.name ps) >>= fun _ => pure ()) = _
    rw [table]
    rfl
  have columns : checkColumns w [r.shape t.name] ps = .ok () :=
    h.checkColumns_shows hr rfl (fun _ h => h) shows w []
  have grouped : makesGroups ps [] = false := hasGroup_shows shows
  obtain ⟨guide, query⟩ := exists_rowQuery_eq t.name ps
  rw [query] at tables ⊢
  unfold checkSelect
  rw [tables, own]
  simp only [List.singleton_append, columns, grouped]
  rfl

theorem queryRows_rowQuery (h : t.Proper) (hw : w.relation t.name = .ok r)
    (hr : r.columns = t.columnShapes)
    (width : ∀ row ∈ r.rows, row.cells.length = t.columns.length)
    (shows : List.Forall₂ Shows (t.columns.map Column.name) ps) :
    queryRows w [] false (rowQuery t.name ps) = .ok (r.rows.map Row.cells) := by
  obtain ⟨guide, query⟩ := exists_rowQuery_eq t.name ps
  have projected : ∀ row ∈ r.rows, project w [⟨r.shape t.name, row⟩] [] ps = .ok row.cells :=
    fun row hrow => by
      rw [h.project_columns hr rfl (fun _ h => h) shows, h.map_cellNamed (width row hrow)]
  rw [query]
  refine Eq.trans (queryRows_plain hw (picks_always ..) (hasGroup_shows shows) projected) ?_
  rw [List.filter_true]

end Rows

/-! ## Asking for the rows -/

section Asking

variable {c : Connection} {t : Table}

/-- The table of a name as expressions see it. -/
theorem relation_of_table? {d : Database} {name : String} (now : Calendar.Instant)
    (found : d.table? name = some t) :
    d.relation now name = .ok { t.relation with
      sought := t.relation.sought ++ (d.indexesOf t.name).filterMap Index.firstColumn? } := by
  unfold Database.relation Database.relationWithin Database.tableRelation?
  rw [found]

/-- Nothing is wrong with an empty rest. -/
theorem restFault?_empty (c : Connection) (fuel : Nat) : restFault? c false fuel "" = none := by
  have nothing : prepare c "" = .ok none := prepare_of_none c rfl
  cases fuel with
  | zero => rfl
  | succ fuel =>
    unfold restFault?
    rw [nothing]
    rfl

/-- A change whose names lead somewhere is prepared as it is read. -/
theorem prepared_change {text : String} {change : Sql.Change} {n : Nat}
    (read : Parsed.ofText text = .ok (some ⟨.change change, n, ""⟩))
    (checked : c.checkChange change = .ok ()) :
    Work.prepared c text = .ok (some ⟨.change change, n, ""⟩) := by
  have prepared : prepare c text = .ok (some ⟨.change change, n, ""⟩) := by
    unfold prepare
    rw [read]
    show (c.checkChange change >>= fun _ => Except.ok _) = _
    rw [checked]
    rfl
  unfold Work.prepared
  rw [prepared]
  simp only [restFault?_empty]

theorem checkChange_select {s : Select} (names : checkSelect (c.world [] .statement) [] s = .ok ())
    (collations : checkQueryCollations s = .ok ()) : c.checkChange (.select s) = .ok () := by
  have whole : ∀ inner, c.database.checkWhole (c.world [] .statement) c.foreignKeys inner [] []
      (.select s) = .ok () := by
    intro inner
    unfold Database.checkWhole Database.checkNames
    simp only [names, collations]
    rfl
  unfold Connection.checkChange
  rcases c.database.depth with _ | depth <;> exact whole _

/-- Asking for all columns of a table answers the cells of its rows, and changes nothing. -/
theorem exists_run_query_rows (h : t.Proper) (found : c.database.table? t.name = some t)
    (width : ∀ row ∈ t.rows, row.cells.length = t.columns.length) :
    ∃ answer, (Action.query (.text (Replay.selectSql t.name (t.columns.map Column.name)))).run c =
        (.ok answer, c) ∧
      answer.rows = t.rows.map Row.cells := by
  obtain ⟨ps, read, shows⟩ := Sql.exists_parsed_selectSql t.name (t.columns.map Column.name)
    (by simpa using h.nonempty) h.name
    (List.forall_mem_map.mpr h.columnNames)
  have relation := relation_of_table? c.now found
  have prepared := prepared_change read <| checkChange_select (c := c)
    (checkSelect_rowQuery h relation rfl shows) (checkQueryCollations_rowQuery shows)
  have queried := queryRows_rowQuery (w := c.world [] .statement) h relation rfl width shows
  have rows : ∀ (text : String) (headings : List String) (rows : List (List Cell)),
      (answer c text headings rows).rows = rows := fun text headings rows => by
    unfold answer
    split <;> rfl
  refine ⟨answer c (Replay.selectSql t.name (t.columns.map Column.name))
    (headings (c.world [] .statement) (rowQuery t.name ps)) (t.rows.map Row.cells), ?_, rows ..⟩
  rw [Action.query, run_ofWork, Work.run_query]
  have text : ∀ sql, (Query.text sql).sql = sql := fun _ => rfl
  have given : ∀ sql, (Query.text sql).values = [] := fun _ => rfl
  have enough : checkParameters ([] : List Cell).length 0 = .ok () := rfl
  simp only [text, prepared, given, enough, List.map_nil, Step.run_perform_select, queried]
  rfl

end Asking

end FilterStore.Engine
