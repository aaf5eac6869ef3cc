import FilterStore.Proofs.Query.Binding
import FilterStore.Proofs.Query.Spelling

/-!
# Values stay out of the text

Values go into a statement as cells.  What of them reaches the text is known from the outside: of a
list, how many values it has, because there is a placeholder for each.  `Clause.wording` writes the
text of a condition from the column, the operator, the text of a raw operand and this number, and
`Clause.sql_of_condition` says that a condition that compiles has this text.  A value has no other
way into the text, since `wording` is not given any.

Everything else follows by comparing two requests place by place.  Requests are *alike* if they
differ in values only, and lists in the same place have as many values.  Alike requests that both
compile have the same text.  For the fields of a record one can say more: a value that can be bound
at all can be stored in every column, so records of the same names whose values can be bound are
refused together, too.
-/

namespace FilterStore

open Text (trim commaList)

/-! ## What the text depends on -/

mutual

/-- How many values a value is in a list: as many as its items if it is itself a list. -/
def Value.size : Value → Nat
  | .list items => Value.sizeAll items
  | _ => 1

/-- How many values a list has, nested lists opened. -/
def Value.sizeAll : List Value → Nat
  | [] => 0
  | item :: rest => item.size + Value.sizeAll rest

end

/-- Whether an operator takes a list of values. -/
def Operator.takesList : Operator → Bool
  | .between | .notBetween | .isIn | .notIn | .all | .any => true
  | _ => false

namespace Clause

/-- How many values an operand is to an operator on lists.  A text is a list with commas. -/
def sizeOf : Option Operand → Nat
  | some (.value (.text s)) => (commaList s).length
  | some (.value v) => v.size
  | _ => 0

/-- The text of a raw operand. -/
def rawTextOf : Option Operand → Option String
  | some (.raw raw) => some raw.sql
  | _ => none

/-- The text of a condition, by the text of a raw operand and the number of values. -/
def wording (column : String) (raw : Option String) (n : Nat) : Operator → String
  | .hasRows => Operator.hasRows.name ++ " (" ++ trim (raw.getD "") ++ ")"
  | .hasNoRows => Operator.hasNoRows.name ++ " (" ++ trim (raw.getD "") ++ ")"
  | .isNull => column ++ " ISNULL"
  | .notNull => column ++ " NOTNULL"
  | .between => column ++ " " ++ Operator.between.name ++ " ? AND ?"
  | .notBetween => column ++ " " ++ Operator.notBetween.name ++ " ? AND ?"
  | .isIn | .any => column ++ " " ++ "IN" ++ " (" ++ (raw.map trim).getD (Query.marks n) ++ ")"
  | .notIn => column ++ " " ++ "NOT IN" ++ " (" ++ (raw.map trim).getD (Query.marks n) ++ ")"
  | .all => " AND ".intercalate (List.replicate n (column ++ " = ?"))
  | o => column ++ " " ++ o.name ++ " " ++ (raw.map trim).getD "?"

/-- The number of values matters to the operators on lists alone. -/
theorem wording_congr {column : String} {raw : Option String} {m n : Nat} {o : Operator}
    (h : o.takesList = true → m = n) : wording column raw m o = wording column raw n o := by
  cases o with
  | isIn | notIn | all | any => rw [h rfl]
  | _ => rfl

end Clause

/-! ## The number of values -/

namespace Value

/-- A value that is bound as one cell is no list. -/
theorem size_of_encode {v : Value} {cell : Cell} (h : v.encode = .ok cell) : v.size = 1 := by
  cases v with
  | list items => cases h
  | _ => rfl

/-- A date is stored in one way or another in every column, and any other value as it is bound.  So
what can be stored in a column can be bound anywhere, and the other way round. -/
theorem encodeFor_eq_ok_iff {v : Value} {affinity : Affinity} :
    (∃ cell, v.encodeFor affinity = .ok cell) ↔ ∃ cell, v.encode = .ok cell := by
  cases v with
  | date d => exact ⟨fun _ => ⟨_, rfl⟩, fun _ => ⟨_, rfl⟩⟩
  | _ => rfl

theorem size_of_encodeFor {v : Value} {affinity : Affinity} {cell : Cell}
    (h : v.encodeFor affinity = .ok cell) : v.size = 1 := by
  obtain ⟨_, h⟩ := encodeFor_eq_ok_iff.mp ⟨cell, h⟩
  exact size_of_encode h

mutual

theorem length_of_encodeFlat {v : Value} {cells : List Cell} (h : v.encodeFlat = .ok cells) :
    cells.length = v.size := by
  cases v with
  | list items => exact length_of_encodeAll h
  | _ =>
    simp only [encodeFlat, map_eq_ok_iff] at h
    obtain ⟨cell, hcell, rfl⟩ := h
    exact (size_of_encode hcell).symm

/-- Opened lists have as many cells as values. -/
theorem length_of_encodeAll {items : List Value} {cells : List Cell}
    (h : encodeAll items = .ok cells) : cells.length = sizeAll items := by
  cases items with
  | nil =>
    cases h
    rfl
  | cons item rest =>
    obtain ⟨first, hfirst, h⟩ := bind_eq_ok_iff.mp h
    obtain ⟨others, hothers, h⟩ := bind_eq_ok_iff.mp h
    cases h
    rw [List.length_append, length_of_encodeFlat hfirst, length_of_encodeAll hothers, sizeAll]

end

/-- In a temporal column no item is a list. -/
theorem length_of_mapM_encodeFor {items : List Value} {affinity : Affinity} {cells : List Cell}
    (h : items.mapM (fun v => v.encodeFor affinity) = .ok cells) :
    cells.length = sizeAll items := by
  induction items generalizing cells with
  | nil =>
    cases h
    rfl
  | cons item rest ih =>
    rw [List.mapM_cons] at h
    obtain ⟨first, hfirst, h⟩ := bind_eq_ok_iff.mp h
    obtain ⟨others, hothers, h⟩ := bind_eq_ok_iff.mp h
    cases h
    rw [List.length_cons, ih hothers, sizeAll, size_of_encodeFor hfirst, Nat.add_comm]

end Value

namespace Clause

theorem located_eq_ok_iff {α : Type} {index : Nat} {column : String} {x : Except Unencodable α}
    {a : α} : located index column x = .ok a ↔ x = .ok a := by
  rw [← toOption_eq_some_iff, located_toOption, toOption_eq_some_iff]

namespace Context

variable {x : Context} {operator : String} {operand : Option Operand} {cells : List Cell}

theorem length_of_listCells (h : x.listCells operator operand = .ok cells) :
    sizeOf operand = cells.length := by
  unfold listCells at h
  split at h
  · cases h
  · cases h
  · rename_i items
    rw [located_eq_ok_iff] at h
    unfold encodeItems at h
    split at h
    · exact (Value.length_of_mapM_encodeFor h).symm
    · exact (Value.length_of_encodeAll h).symm
  · cases h
    rw [List.length_map]
    rfl
  · rename_i v notList notText
    obtain ⟨cell, hcell, rfl⟩ := map_eq_ok_iff.mp h
    cases v with
    | list items => exact absurd rfl (notList items)
    | text s => exact absurd rfl (notText s)
    | _ => rfl

theorem length_of_someCells (h : x.someCells operator operand = .ok cells) :
    sizeOf operand = cells.length := by
  obtain ⟨found, hfound, h⟩ := bind_eq_ok_iff.mp h
  split at h
  · cases h
  · cases h
    exact length_of_listCells hfound

end Context

/-! ## The text of a condition -/

namespace Context

variable {x : Context} {operator : String} {operand : Option Operand} {q : Query}

theorem sql_of_between (h : x.between operator operand = .ok q) :
    q.sql = x.column ++ " " ++ operator ++ " ? AND ?" := by
  obtain ⟨cells, -, h⟩ := bind_eq_ok_iff.mp h
  split at h
  · cases h
    rfl
  · cases h

theorem sql_of_member (h : x.member operator operand = .ok q) :
    q.sql = x.column ++ " " ++ operator ++ " (" ++
      ((rawTextOf operand).map trim).getD (Query.marks (sizeOf operand)) ++ ")" := by
  unfold member at h
  split at h
  · obtain ⟨_, -, h⟩ := bind_eq_ok_iff.mp h
    cases h
    rfl
  · rename_i notRaw
    obtain ⟨cells, hcells, h⟩ := bind_eq_ok_iff.mp h
    cases h
    rw [length_of_someCells hcells]
    obtain ⟨⟨v, rfl⟩, -⟩ := exists_value_of_someCells hcells
    rfl

theorem sql_of_all (h : x.all operator operand = .ok q) :
    q.sql = " AND ".intercalate (List.replicate (sizeOf operand) (x.column ++ " = ?")) := by
  unfold all at h
  split at h
  · cases h
  · obtain ⟨cells, hcells, h⟩ := bind_eq_ok_iff.mp h
    cases h
    rw [length_of_someCells hcells]

theorem sql_of_single (h : x.single operator operand = .ok q) :
    q.sql = x.column ++ " " ++ operator ++ " " ++
      ((rawTextOf operand).map trim).getD "?" := by
  unfold single at h
  split at h
  · cases h
  · obtain ⟨_, -, h⟩ := bind_eq_ok_iff.mp h
    cases h
    rfl
  · cases h
  · obtain ⟨cell, -, h⟩ := bind_eq_ok_iff.mp h
    cases h
    have mark : x.column ++ " " ++ operator ++ " " ++ "?" = x.column ++ " " ++ operator ++ " ?" :=
      String.append_assoc
    exact mark.symm

theorem sql_of_rows (h : x.rows operator operand = .ok q) :
    q.sql = operator ++ " (" ++ trim ((rawTextOf operand).getD "") ++ ")" := by
  unfold rows at h
  split at h
  · obtain ⟨_, -, h⟩ := bind_eq_ok_iff.mp h
    cases h
    rfl
  · cases h

end Context

/-- **The text of a condition is made without its values.** -/
theorem sql_of_condition {x : Context} {o : Operator} {operand : Option Operand} {q : Query}
    (h : condition x o operand = .ok q) :
    q.sql = wording x.column (rawTextOf operand) (sizeOf operand) o := by
  cases o with
  | hasRows | hasNoRows => exact Context.sql_of_rows h
  | isNull | notNull =>
    cases h
    rfl
  | between | notBetween => exact Context.sql_of_between h
  | isIn | any | notIn => exact Context.sql_of_member h
  | all => exact Context.sql_of_all h
  | compare _ | like | notLike | regexp => exact Context.sql_of_single h

end Clause

/-! ## Alike requests -/

/-- Clauses that differ in their values only, lists in as many values. -/
structure ColumnClause.Alike (c d : ColumnClause) : Prop where
  column : d.column = c.column
  operator : d.operator = c.operator
  connective : d.connective = c.connective
  rawText : Clause.rawTextOf d.operand = Clause.rawTextOf c.operand
  size : ∀ o, Operator.parse? c.operator = some o → o.takesList = true →
    Clause.sizeOf d.operand = Clause.sizeOf c.operand

/-- Entries that differ in values only. -/
inductive Entry.Alike : Entry → Entry → Prop
  | opening (c : Option Connective) : Alike (.opening c) (.opening c)
  | closing : Alike .closing .closing
  | raw {a b : RawClause} (h : b.sql = a.sql) : Alike (.raw a) (.raw b)
  | column {c d : ColumnClause} (h : c.Alike d) : Alike (.column c) (.column d)

/-- Selected columns that differ in values only. -/
inductive Selector.Alike : Selector → Selector → Prop
  | column (name : String) : Alike (.column name) (.column name)
  | raw {a b : RawClause} (h : b.sql = a.sql) : Alike (.raw a) (.raw b)

/-- Specifications that differ in values only. -/
structure Spec.Alike (s s' : Spec) : Prop where
  filter : List.Forall₂ Entry.Alike s.filter s'.filter
  columns : List.Forall₂ Selector.Alike s.columns s'.columns
  limit : s'.limit = s.limit
  connective : s'.connective = s.connective
  order : s'.order = s.order

/-- Requests that differ in values only. -/
inductive Request.Alike : Request → Request → Prop
  | select {s s' : Spec} (h : s.Alike s') : Alike (.select s) (.select s')
  | count {s s' : Spec} (h : s.Alike s') : Alike (.count s) (.count s')
  | delete {s s' : Spec} (h : s.Alike s') : Alike (.delete s) (.delete s')
  | insert {f g : Record} (names : g.columns = f.columns) : Alike (.insert f) (.insert g)
  | update {f g : Record} {s s' : Spec} (names : g.columns = f.columns) (h : s.Alike s') :
    Alike (.update f s) (.update g s')
  | condition {es es' : List Entry} (connective : Option Connective)
    (h : List.Forall₂ Entry.Alike es es') :
    Alike (.condition es connective) (.condition es' connective)

/-! ## Filters -/

/-- Two runs branch alike, and only one branch tells them apart. -/
theorem eq_of_ite {ε α β : Type} {see : α → β} {common : Prop} [Decidable common]
    {x y z : Except ε α} {p q : α} (h : y = .ok p → z = .ok q → see q = see p)
    (hp : (if common then x else y) = .ok p) (hq : (if common then x else z) = .ok q) :
    see q = see p := by
  split at hp
  · rename_i taken
    rw [if_pos taken] at hq
    cases hp.symm.trans hq
    rfl
  · rename_i taken
    rw [if_neg taken] at hq
    exact h hp hq

section Filter

variable {r : Registry} {t : TableDefinition} {i : Nat} {p q : Query}

theorem ColumnClause.Alike.sql_eq {c d : ColumnClause} (h : c.Alike d)
    (hp : c.compile r t i = .ok p) (hq : d.compile r t i = .ok q) : q.sql = p.sql := by
  cases parsed : Operator.parse? c.operator with
  | none =>
    simp only [compile, parsed] at hp
    cases hp
  | some o =>
    -- The affinity of the column is the same in both, but `wording` would not know of it anyway.
    simp only [compile, h.operator, h.column, parsed] at hp hq
    refine eq_of_ite (fun hp hq => ?_) hp hq
    rw [Clause.sql_of_condition hp, Clause.sql_of_condition hq, h.rawText]
    exact Clause.wording_congr (h.size o parsed)

/-- **Filters that differ in values only have conditions of the same text.** -/
theorem Condition.sql_compileFrom_eq {joining : Connective} {es es' : List Entry}
    (h : List.Forall₂ Entry.Alike es es') {first : Bool} {depth : Nat}
    (hp : compileFrom r t joining i first depth es = .ok p)
    (hq : compileFrom r t joining i first depth es' = .ok q) : q.sql = p.sql := by
  induction h generalizing i first depth p q with
  | nil =>
    cases hp.symm.trans hq
    rfl
  | cons head _ ih =>
    cases head with
    | opening c =>
      simp only [compileFrom, bind_eq_ok_iff, Except.ok.injEq] at hp hq
      obtain ⟨p, hp, rfl⟩ := hp
      obtain ⟨q, hq, rfl⟩ := hq
      simp only [Query.sql_append, ih hp hq]
    | closing =>
      -- Both runs know the same of the groups around them, so no bracket is refused in one alone.
      simp only [compileFrom] at hp hq
      refine eq_of_ite (fun opened opened' => ?_) hp hq
      refine eq_of_ite (fun filled filled' => ?_) opened opened'
      simp only [bind_eq_ok_iff, Except.ok.injEq] at filled filled'
      obtain ⟨p, after, rfl⟩ := filled
      obtain ⟨q, after', rfl⟩ := filled'
      simp only [Query.sql_append, ih after after']
    | raw same =>
      simp only [compileFrom, bind_eq_ok_iff, Except.ok.injEq] at hp hq
      obtain ⟨_, -, p, hp, rfl⟩ := hp
      obtain ⟨_, -, q, hq, rfl⟩ := hq
      simp only [Query.sql_append, sql_enclosed, RawClause.query, same, ih hp hq]
    | column alike =>
      simp only [compileFrom, bind_eq_ok_iff, Except.ok.injEq] at hp hq
      obtain ⟨_, hbody, p, hp, rfl⟩ := hp
      obtain ⟨_, hbody', q, hq, rfl⟩ := hq
      simp only [Query.sql_append, sql_enclosed, alike.connective, alike.sql_eq hbody hbody',
        ih hp hq]

theorem sql_whereClause_eq_of_alike {s s' : Spec} (h : s.Alike s')
    (hp : r.whereClause t s = .ok p) (hq : r.whereClause t s' = .ok q) : q.sql = p.sql := by
  have joining : s'.joining = s.joining := by rw [Spec.joining, h.connective, Spec.joining]
  rw [Registry.whereClause, isEmpty_eq_of_forall₂ h.filter, joining] at hq
  rw [Registry.whereClause] at hp
  refine eq_of_ite (fun filled filled' => ?_) hp hq
  simp only [bind_eq_ok_iff, Except.ok.injEq] at filled filled'
  obtain ⟨p, condition, rfl⟩ := filled
  obtain ⟨q, condition', rfl⟩ := filled'
  rw [Query.sql_append, Query.sql_append,
    Condition.sql_compileFrom_eq h.filter condition condition']

end Filter

/-! ## Selected columns and fields -/

section Lists

variable {r : Registry} {t : TableDefinition}

theorem Selector.Alike.sql_eq {a b : Selector} (h : a.Alike b) {p q : Query}
    (hp : Statement.selected t a = .ok p) (hq : Statement.selected t b = .ok q) :
    q.sql = p.sql := by
  cases h with
  | column name =>
    cases hp.symm.trans hq
    rfl
  | raw same =>
    cases hp
    cases hq
    exact same

/-- The texts of queries with commas between them. -/
theorem sql_commaSeparated (qs : List Query) :
    (Statement.commaSeparated qs).sql = ", ".intercalate (qs.map Query.sql) := by
  induction qs with
  | nil => rfl
  | cons q qs ih =>
    cases qs with
    | nil =>
      rw [List.map_singleton, String.intercalate_singleton]
      rfl
    | cons q' qs =>
      have split : Statement.commaSeparated (q :: q' :: qs) =
          q ++ .text ", " ++ Statement.commaSeparated (q' :: qs) := rfl
      rw [split, Query.sql_append, Query.sql_append, ih]
      exact String.intercalate_cons_cons.symm

theorem sql_selectList_eq_of_alike {ss ss' : List Selector}
    (h : List.Forall₂ Selector.Alike ss ss') {p q : Query}
    (hp : Statement.selectList t ss = .ok p) (hq : Statement.selectList t ss' = .ok q) :
    q.sql = p.sql := by
  have each : ∀ ps qs, ss.mapM (Statement.selected t) = .ok ps →
      ss'.mapM (Statement.selected t) = .ok qs → qs.map Query.sql = ps.map Query.sql := by
    clear hp hq
    induction h with
    | nil =>
      intro ps qs hps hqs
      cases hps
      cases hqs
      rfl
    | cons head _ ih =>
      intro ps qs hps hqs
      simp only [List.mapM_cons, bind_eq_ok_iff] at hps hqs
      obtain ⟨p, hp, ps, hps, ⟨⟩⟩ := hps
      obtain ⟨q, hq, qs, hqs, ⟨⟩⟩ := hqs
      rw [List.map_cons, List.map_cons, head.sql_eq hp hq, ih ps qs hps hqs]
  rw [Statement.selectList, isEmpty_eq_of_forall₂ h] at hq
  rw [Statement.selectList] at hp
  refine eq_of_ite (fun hp hq => ?_) hp hq
  rw [map_eq_ok_iff] at hp hq
  obtain ⟨ps, hps, rfl⟩ := hp
  obtain ⟨qs, hqs, rfl⟩ := hq
  rw [sql_commaSeparated, sql_commaSeparated, each ps qs hps hqs]

/-- Values that can be bound. -/
def Bindable (fs : List (String × Value)) : Prop := ∀ f ∈ fs, ∃ cell, f.2.encode = .ok cell

/-- Fields that are accepted have values that can be bound. -/
theorem bindable_of_fields {i : Nat} {fs : List (String × Value)} {cells : List (String × Cell)}
    (h : Statement.fields r t i fs = .ok cells) : Bindable fs := by
  induction fs generalizing i cells with
  | nil => exact fun f hf => absurd hf List.not_mem_nil
  | cons f fs ih =>
    obtain ⟨name, v⟩ := f
    simp only [Statement.fields] at h
    split at h
    · cases h
    · split at h
      · cases h
      · rename_i stored
        obtain ⟨others, rest, -⟩ := bind_eq_ok_iff.mp h
        intro f hf
        rcases List.mem_cons.mp hf with rfl | hf
        · exact Value.encodeFor_eq_ok_iff.mp ⟨_, stored⟩
        · exact ih rest f hf

/-- **Fields of the same names are the same columns, or are refused together.** -/
theorem map_fst_fields_eq {i : Nat} {fs gs : List (String × Value)}
    (names : gs.map Prod.fst = fs.map Prod.fst) (hf : Bindable fs) (hg : Bindable gs) :
    (Statement.fields r t i gs).map (List.map Prod.fst) =
      (Statement.fields r t i fs).map (List.map Prod.fst) := by
  induction fs generalizing i gs with
  | nil =>
    rw [List.map_nil, List.map_eq_nil_iff] at names
    rw [names]
  | cons f fs ih =>
    obtain ⟨name, v⟩ := f
    obtain ⟨⟨name', v'⟩, gs, rfl, same, others⟩ := List.map_eq_cons_iff.mp names
    obtain rfl : name' = name := same
    have rest := ih (i := i + 1) others (fun f h => hf f (List.mem_cons_of_mem _ h))
      fun g h => hg g (List.mem_cons_of_mem _ h)
    cases found : t.column? name' with
    | none => simp only [Statement.fields, found]
    | some c =>
      have stored : ∀ v : Value, (∃ cell, v.encode = .ok cell) →
          ∃ cell, v.encodeFor ((r.storageAffinity? t.name c.name).getD c.affinity) = .ok cell :=
        fun v => Value.encodeFor_eq_ok_iff.mpr
      obtain ⟨cell, hcell⟩ := stored v (hf _ List.mem_cons_self)
      obtain ⟨cell', hcell'⟩ := stored v' (hg _ List.mem_cons_self)
      simp only [Statement.fields, found, hcell, hcell']
      refine map_bind_congr rest fun others others' same => ?_
      exact congrArg (fun names => Except.ok (c.name :: names)) same

end Lists

/-! ## Requests -/

namespace Registry

variable {r : Registry} {table : String} {f g : Record}

theorem isEmpty_eq_of_columns (names : g.columns = f.columns) : g.isEmpty = f.isEmpty := by
  have length := congrArg List.length names
  rw [Record.columns, Record.columns, List.length_map, List.length_map] at length
  rw [Record.isEmpty, Record.isEmpty, Bool.eq_iff_iff, List.isEmpty_iff_length_eq_zero,
    List.isEmpty_iff_length_eq_zero, length]

/-- Records of the same names are inserted by the same text, or are refused together. -/
theorem map_sql_compileInsert_eq (names : g.columns = f.columns) (hf : Bindable f.fields)
    (hg : Bindable g.fields) (r : Registry) (table : String) :
    (r.compileInsert table g).map Query.sql = (r.compileInsert table f).map Query.sql := by
  simp only [compileInsert, isEmpty_eq_of_columns names]
  cases r.target table with
  | error e => rfl
  | ok t =>
    simp only [ok_bind]
    split
    · rfl
    · refine map_bind_congr (map_fst_fields_eq names hf hg) fun cells cells' same => ?_
      have length : cells'.length = cells.length := by
        rw [← List.length_map Prod.fst, same, List.length_map]
      simp only [Except.map, same, length]

/-- The same before conditions of the same text. -/
theorem map_sql_compileUpdate_eq (names : g.columns = f.columns) (hf : Bindable f.fields)
    (hg : Bindable g.fields) {s s' : Spec}
    (condition : ∀ t, r.target table = .ok t →
      (r.whereClause t s').map Query.sql = (r.whereClause t s).map Query.sql) :
    (r.compileUpdate table g s').map Query.sql = (r.compileUpdate table f s).map Query.sql := by
  simp only [compileUpdate, isEmpty_eq_of_columns names]
  cases target : r.target table with
  | error e => rfl
  | ok t =>
    simp only [ok_bind]
    split
    · rfl
    · refine map_bind_congr (map_fst_fields_eq names hf hg) fun cells cells' same => ?_
      refine map_bind_congr (condition t target) fun p q text => ?_
      have assignments : ∀ cells : List (String × Cell),
          cells.map (fun f => f.1 ++ " = ?") = (cells.map Prod.fst).map (· ++ " = ?") := by
        intro cells
        rw [List.map_map]
        rfl
      simp only [Except.map, Query.sql_append, assignments, same, text]

/-- Accepted records have values that can be bound. -/
theorem bindable_of_compileInsert {p : Query} (h : r.compileInsert table f = .ok p) :
    Bindable f.fields := by
  simp only [compileInsert, bind_eq_ok_iff] at h
  obtain ⟨t, -, h⟩ := h
  split at h
  · rename_i empty
    rw [Record.isEmpty, List.isEmpty_iff] at empty
    rw [empty]
    exact fun f hf => absurd hf List.not_mem_nil
  · obtain ⟨cells, hcells, -⟩ := bind_eq_ok_iff.mp h
    exact bindable_of_fields hcells

theorem bindable_of_compileUpdate {s : Spec} {p : Query}
    (h : r.compileUpdate table f s = .ok p) :
    Bindable f.fields ∧ ∃ t c, r.target table = .ok t ∧ r.whereClause t s = .ok c := by
  simp only [compileUpdate, bind_eq_ok_iff] at h
  obtain ⟨t, ht, h⟩ := h
  split at h
  · cases h
  · simp only [bind_eq_ok_iff] at h
    obtain ⟨cells, hcells, c, hc, -⟩ := h
    exact ⟨bindable_of_fields hcells, t, c, ht, hc⟩

theorem sql_compileSelect_eq {s s' : Spec} (h : s.Alike s') {p q : Query}
    (hp : r.compileSelect table s = .ok p) (hq : r.compileSelect table s' = .ok q) :
    q.sql = p.sql := by
  simp only [compileSelect, h.order, h.limit, bind_eq_ok_iff, Except.ok.injEq] at hp hq
  obtain ⟨t, ht, columns, hcolumns, condition, hcondition, order, horder, rfl⟩ := hp
  obtain ⟨t', ht', columns', hcolumns', condition', hcondition', order', horder', rfl⟩ := hq
  cases ht.symm.trans ht'
  cases horder.symm.trans horder'
  simp only [Query.sql_append, sql_selectList_eq_of_alike h.columns hcolumns hcolumns',
    sql_whereClause_eq_of_alike h hcondition hcondition']

/-- What is compared of statements, of requests for conditions too. -/
theorem map_sql_eq {x y : Except Error Query}
    (h : ∀ {p q : Query}, x = .ok p → y = .ok q → q.sql = p.sql) {p q : Option Query}
    (hp : x.map some = .ok p) (hq : y.map some = .ok q) : q.map Query.sql = p.map Query.sql := by
  rw [map_eq_ok_iff] at hp hq
  obtain ⟨p, hp, rfl⟩ := hp
  obtain ⟨q, hq, rfl⟩ := hq
  exact congrArg some (h hp hq)

/-- A text before a condition. -/
theorem sql_lead_eq {s s' : Spec} (h : s.Alike s') {lead : TableDefinition → Query} {p q : Query}
    (hp : (do let t ← r.target table; let c ← r.whereClause t s; .ok (lead t ++ c)) = .ok p)
    (hq : (do let t ← r.target table; let c ← r.whereClause t s'; .ok (lead t ++ c)) = .ok q) :
    q.sql = p.sql := by
  simp only [bind_eq_ok_iff, Except.ok.injEq] at hp hq
  obtain ⟨t, ht, condition, hcondition, rfl⟩ := hp
  obtain ⟨t', ht', condition', hcondition', rfl⟩ := hq
  cases ht.symm.trans ht'
  simp only [Query.sql_append, sql_whereClause_eq_of_alike h hcondition hcondition']

theorem sql_compileInsert_eq (names : g.columns = f.columns) {p q : Query}
    (hp : r.compileInsert table f = .ok p) (hq : r.compileInsert table g = .ok q) :
    q.sql = p.sql := by
  have same := map_sql_compileInsert_eq names (bindable_of_compileInsert hp)
    (bindable_of_compileInsert hq) r table
  rw [hp, hq] at same
  exact Except.ok.inj same

theorem sql_compileUpdate_eq (names : g.columns = f.columns) {s s' : Spec} (h : s.Alike s')
    {p q : Query} (hp : r.compileUpdate table f s = .ok p)
    (hq : r.compileUpdate table g s' = .ok q) : q.sql = p.sql := by
  obtain ⟨hf, t, c, ht, hc⟩ := bindable_of_compileUpdate hp
  obtain ⟨hg, t', c', ht', hc'⟩ := bindable_of_compileUpdate hq
  cases ht.symm.trans ht'
  have condition : ∀ u, r.target table = .ok u →
      (r.whereClause u s').map Query.sql = (r.whereClause u s).map Query.sql := by
    intro u hu
    cases ht.symm.trans hu
    rw [hc, hc']
    exact congrArg Except.ok (sql_whereClause_eq_of_alike h hc hc')
  have same := map_sql_compileUpdate_eq names hf hg condition
  rw [hp, hq] at same
  exact Except.ok.inj same

theorem sql_compileWhere_eq {es es' : List Entry} (h : List.Forall₂ Entry.Alike es es')
    {connective : Option Connective} {p q : Option Query}
    (hp : r.compileWhere table es connective = .ok p)
    (hq : r.compileWhere table es' connective = .ok q) : q.map Query.sql = p.map Query.sql := by
  simp only [compileWhere, isEmpty_eq_of_forall₂ h, bind_eq_ok_iff] at hp hq
  obtain ⟨t, ht, hp⟩ := hp
  obtain ⟨t', ht', hq⟩ := hq
  cases ht.symm.trans ht'
  exact eq_of_ite (map_sql_eq (Condition.sql_compileFrom_eq h)) hp hq

/-- **Values stay out of the text.**  Requests that differ in values only have statements of the
same text.  Records of the same names whose values can be bound are written by statements of the
same text, or are refused for the same reason. -/
theorem sql_eq_of_alike (r : Registry) (table : String) :
    (∀ {a b : Request}, a.Alike b → ∀ {p q : Option Query}, a.compile r table = .ok p →
      b.compile r table = .ok q → q.map Query.sql = p.map Query.sql) ∧
    ∀ {f g : Record}, g.columns = f.columns → Bindable f.fields → Bindable g.fields →
      (r.compileInsert table g).map Query.sql = (r.compileInsert table f).map Query.sql ∧
        ∀ s, (r.compileUpdate table g s).map Query.sql =
          (r.compileUpdate table f s).map Query.sql := by
  refine ⟨?_, fun names hf hg => ⟨map_sql_compileInsert_eq names hf hg r table,
    fun s => map_sql_compileUpdate_eq names hf hg fun _ _ => rfl⟩⟩
  intro a b h p q hp hq
  cases h with
  | select h => exact map_sql_eq (sql_compileSelect_eq h) hp hq
  | count h => exact map_sql_eq (sql_lead_eq h) hp hq
  | delete h => exact map_sql_eq (sql_lead_eq h) hp hq
  | insert names => exact map_sql_eq (sql_compileInsert_eq names) hp hq
  | update names h => exact map_sql_eq (sql_compileUpdate_eq names h) hp hq
  | condition connective h => exact sql_compileWhere_eq h hp hq

/-- Users of certain ages, and all of a city. -/
def agedOrFrom (ages : Value) (city : String) : Request :=
  .select ⟨[.column ⟨"age", "IN", some (.value ages), none⟩,
    .column ⟨"city", "=", some (.value (.text city)), some .or⟩], [], none, none, []⟩

/-- Three ages are as good as three words, and a city as good as a condition. -/
theorem sql_agedOrFrom :
    (agedOrFrom (.list [.integer 18, .list [.integer 19, .null]]) "Berlin").compile ofUsers "user" =
        .ok (some ⟨"SELECT age, city FROM user WHERE (age IN (?, ?, ?)) OR (city = ?)",
          [.integer 18, .integer 19, .null, .text "Berlin"]⟩) ∧
      (∃ q, (agedOrFrom (.text "1, 2), ?") "x OR 1 = 1").compile ofUsers "user" = .ok (some q) ∧
        q.sql = "SELECT age, city FROM user WHERE (age IN (?, ?, ?)) OR (city = ?)") ∧
      (ofUsers.compileInsert "user" ⟨[("city", .text "Berlin")]⟩).map Query.sql =
        (ofUsers.compileInsert "user" ⟨[("city", .null)]⟩).map Query.sql := by
  have compiled : (agedOrFrom (.list [.integer 18, .list [.integer 19, .null]]) "Berlin").compile
      ofUsers "user" = .ok (some
        ⟨"SELECT age, city FROM user WHERE (age IN (?, ?, ?)) OR (city = ?)",
          [.integer 18, .integer 19, .null, .text "Berlin"]⟩) := rfl
  have other : (agedOrFrom (.text "1, 2), ?") "x OR 1 = 1").compile ofUsers "user" = .ok (some
      ⟨"SELECT age, city FROM user WHERE (age IN (?, ?, ?)) OR (city = ?)",
        [.text "1", .text "2)", .text "?", .text "x OR 1 = 1"]⟩) := rfl
  have alike : (agedOrFrom (.list [.integer 18, .list [.integer 19, .null]]) "Berlin").Alike
      (agedOrFrom (.text "1, 2), ?") "x OR 1 = 1") := by
    refine .select ⟨.cons (.column ⟨rfl, rfl, rfl, rfl, fun _ _ _ => rfl⟩)
      (.cons (.column ⟨rfl, rfl, rfl, rfl, ?_⟩) .nil), .nil, rfl, rfl, rfl⟩
    intro o parsed takes
    cases parsed
    cases takes
  have bound : ∀ v : Value, (∃ cell, v.encode = .ok cell) → Bindable [("city", v)] := by
    rintro v hv f (_ | ⟨_, ⟨⟩⟩)
    exact hv
  obtain ⟨same, records⟩ := sql_eq_of_alike ofUsers "user"
  exact ⟨compiled, ⟨_, other, Option.some.inj (same alike compiled other)⟩,
    (records rfl (bound _ ⟨_, rfl⟩) (bound _ ⟨_, rfl⟩)).1⟩

end Registry

end FilterStore
