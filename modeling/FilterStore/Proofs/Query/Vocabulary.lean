import FilterStore.Proofs.Query.Binding

/-!
# What statements are written with

The texts of a request may come from anyone.  None of them is written into a statement: an operand
becomes a cell, an operator is written in its own spelling, and the name of a column or of a table
only says which registered name is written.  The exception is a raw clause, whose text is written as
it is given.

So without raw clauses a statement is made of few things: keywords and signs, the spellings of
operators, placeholders, the numbers of a limit, and the names of the table and of its columns.  A
condition writes a column in small letters, so names are the registered ones up to the case of ASCII
letters.

A registered name has letters, numerals and underscores, and changing the case of ASCII letters
keeps it so.  Hence the characters of a statement are these and the few signs of the vocabulary.
There is no quote among them, no semicolon, and neither of the characters that start a comment.
Whatever a request says, it cannot leave the place it is given in.
-/

namespace FilterStore

open Condition (joint enclosed compileFrom)
open Text (MadeOf lower sameName trim)

/-- The numbers of a limit. -/
def Limit.numbers : Limit → List UInt64
  | .count n => [n]
  | .range offset n => [offset, n]

/-- The numbers of the limit of a request; only a selection has one. -/
def Request.limits : Request → List UInt64
  | select spec => (spec.limit.map Limit.numbers).getD []
  | _ => []

/-- The words that are always written the same way. -/
def keywords : List String :=
  ["SELECT", "COUNT", "FROM", "WHERE", "ORDER", "BY", "ASC", "DESC", "LIMIT", "DELETE", "INSERT",
   "INTO", "DEFAULT", "VALUES", "UPDATE", "SET", "AND", "OR", "NOT", "ISNULL", "NOTNULL"]

/-- The signs between words; the comparisons are operators. -/
def signs : List String := [" ", ",", "(", ")", "*", "="]

/-- What a statement on a table is written with. -/
inductive Lexeme (t : TableDefinition) (limits : List UInt64) : String → Prop
  | keyword {s : String} (hs : s ∈ keywords) : Lexeme t limits s
  | sign {s : String} (hs : s ∈ signs) : Lexeme t limits s
  | operator (o : Operator) : Lexeme t limits o.name
  | placeholder : Lexeme t limits "?"
  | number {n : UInt64} (hn : n ∈ limits) : Lexeme t limits (toString n.toNat)
  | table {s : String} (hs : sameName s t.name = true) : Lexeme t limits s
  | column {s : String} {d : ColumnDefinition} (hd : d ∈ t.columns)
    (hs : sameName s d.name = true) : Lexeme t limits s

/-- A text that is made of the vocabulary. -/
abbrev Written (t : TableDefinition) (limits : List UInt64) : String → Prop :=
  MadeOf (Lexeme t limits)

variable {t : TableDefinition} {limits : List UInt64}

/-! ## Pieces -/

/-- Keywords and signs in a row. -/
theorem written_phrase {s : String} (words : List String)
    (hwords : ∀ w ∈ words, w ∈ keywords ++ signs) (hs : s = String.join words) :
    Written t limits s := by
  refine ⟨words, fun w hw => ?_, hs⟩
  exact (List.mem_append.mp (hwords w hw)).elim .keyword .sign

theorem written_blank : Written t limits " " := .piece (.sign (by decide))

theorem written_comma : Written t limits ", " := written_phrase [",", " "] (by decide) rfl

theorem written_open : Written t limits " (" := written_phrase [" ", "("] (by decide) rfl

theorem written_close : Written t limits ")" := .piece (.sign (by decide))

theorem written_equals : Written t limits " = " := written_phrase [" ", "=", " "] (by decide) rfl

theorem written_mark : Written t limits "?" := .piece .placeholder

theorem written_table : Written t limits t.name := .piece (.table (Text.sameName_refl _))

theorem written_column {d : ColumnDefinition} (hd : d ∈ t.columns) : Written t limits d.name :=
  .piece (.column hd (Text.sameName_refl _))

/-- The name of a column in small letters. -/
theorem written_lower {d : ColumnDefinition} (hd : d ∈ t.columns) :
    Written t limits (lower d.name) := by
  refine .piece (.column hd ?_)
  rw [Text.sameName_iff, Text.lower_lower]

theorem written_marks (n : Nat) : Written t limits (Query.marks n) := by
  refine .intercalate written_comma fun s hs => ?_
  rw [(List.mem_replicate.mp hs).2]
  exact written_mark

/-! ## Conditions -/

/-- The condition of a clause without a raw operand. -/
theorem Clause.Shape.written {d : ColumnDefinition} (hd : d ∈ t.columns) {q : Query}
    (h : Shape (lower d.name) none q) : Written t limits q.sql := by
  have hcolumn : Written t limits (lower d.name) := written_lower hd
  have hlead : ∀ o : Operator, Written t limits (lower d.name ++ " " ++ o.name) := fun o =>
    (hcolumn.append written_blank).append (.piece (.operator o))
  have hmark : Written t limits " ?" := written_blank.append written_mark
  cases h with
  | isNull => exact hcolumn.append (written_phrase [" ", "ISNULL"] (by decide) rfl)
  | notNull => exact hcolumn.append (written_phrase [" ", "NOTNULL"] (by decide) rfl)
  | compared o cell => exact (hlead o).append hmark
  | between o low high =>
    have hand : Written t limits " AND " := written_phrase [" ", "AND", " "] (by decide) rfl
    exact (hlead o).append (hmark.append (hand.append written_mark))
  | among o cells hcells =>
    exact (((hlead o).append written_open).append (written_marks _)).append written_close
  | all cells hcells =>
    refine .intercalate (written_phrase [" ", "AND", " "] (by decide) rfl) fun s hs => ?_
    rw [(List.mem_replicate.mp hs).2]
    exact hcolumn.append (written_equals.append written_mark)

theorem Leaf.written {r : Registry} {index : Nat} {l : Leaf} {body : Query}
    (h : l.compile r t index = .ok body) (hraw : l.written? = none) :
    Written t limits body.sql := by
  cases l with
  | raw clause => cases hraw
  | column c =>
    rw [compile] at h
    obtain ⟨o, ho, hshape⟩ := ColumnClause.exists_shape h
    rw [written?, ho, Option.bind_some] at hraw
    rw [hraw] at hshape
    obtain ⟨_, ⟨⟩, -⟩ | ⟨d, hd, hshape⟩ := hshape
    exact hshape.written hd

theorem written_joint (first : Bool) (c : Connective) : Written t limits (joint first c).sql := by
  cases first with
  | true => exact .empty
  | false =>
    cases c with
    | and => exact written_phrase [" ", "AND", " "] (by decide) rfl
    | or => exact written_phrase [" ", "OR", " "] (by decide) rfl
    | xor =>
      exact written_blank.append ((MadeOf.piece (.operator (.compare .ltGt))).append written_blank)
    | not => exact written_phrase [" ", "AND", " ", "NOT", " "] (by decide) rfl

theorem written_enclosed {q : Query} (hq : Written t limits q.sql) :
    Written t limits (enclosed q).sql :=
  ((MadeOf.piece (.sign (by decide))).append hq).append written_close

/-- **The pass over a filter without raw clauses writes nothing but the vocabulary.** -/
theorem written_of_compileFrom {r : Registry} {joining : Connective} {es : List Entry}
    (hraw : writtenRaws es = []) {index : Nat} {first : Bool} {depth : Nat} {q : Query}
    (h : compileFrom r t joining index first depth es = .ok q) : Written t limits q.sql := by
  induction es generalizing index first depth q with
  | nil =>
    rw [compileFrom] at h
    split at h
    · cases h
      exact .empty
    · cases h
  | cons e es ih =>
    have before : ∀ l : Leaf, l.entry = e → Written t limits q.sql := by
      rintro l rfl
      rw [writtenRaws, leavesOf_leaf, List.filterMap_eq_nil_iff, List.forall_mem_cons] at hraw
      rw [Forest.compileFrom_leaf] at h
      obtain ⟨body, hbody, h⟩ := bind_eq_ok_iff.mp h
      obtain ⟨after, hafter, h⟩ := bind_eq_ok_iff.mp h
      cases h
      have hclause : Written t limits body.sql := Leaf.written hbody hraw.1
      have hrest := ih (List.filterMap_eq_nil_iff.mpr hraw.2) hafter
      exact ((written_joint _ _).append (written_enclosed hclause)).append hrest
    cases e with
    | raw clause => exact before (.raw clause) rfl
    | column c => exact before (.column c) rfl
    | opening c =>
      obtain ⟨inside, hinside, h⟩ := bind_eq_ok_iff.mp h
      cases h
      have hopen : Written t limits "(" := .piece (.sign (by decide))
      exact ((written_joint _ _).append hopen).append (ih hraw hinside)
    | closing =>
      rw [compileFrom] at h
      split at h
      · cases h
      · split at h
        · cases h
        · obtain ⟨after, hafter, h⟩ := bind_eq_ok_iff.mp h
          cases h
          exact written_close.append (ih hraw hafter)

theorem written_of_whereClause {r : Registry} {spec : Spec} (hraw : writtenRaws spec.filter = [])
    {q : Query} (h : r.whereClause t spec = .ok q) : Written t limits q.sql := by
  unfold Registry.whereClause at h
  split at h
  · cases h
    exact .empty
  · obtain ⟨condition, hcondition, h⟩ := bind_eq_ok_iff.mp h
    cases h
    have hwhere : Written t limits " WHERE " := written_phrase [" ", "WHERE", " "] (by decide) rfl
    exact hwhere.append (written_of_compileFrom hraw hcondition)

/-! ## The other pieces of a statement -/

namespace Statement

theorem written_allColumns : Written t limits (allColumns t) := by
  unfold allColumns
  split
  · exact .piece (.sign (by decide))
  · refine .intercalate written_comma fun name hname => ?_
    obtain ⟨d, hd, rfl⟩ := List.mem_map.mp hname
    exact written_column hd

theorem written_selected {s : Selector} (hraw : s.raw? = none) {q : Query}
    (h : selected t s = .ok q) : Written t limits q.sql := by
  cases s with
  | raw raw => cases hraw
  | column name =>
    rw [selected] at h
    split at h
    · cases h
      exact written_allColumns
    · split at h
      · rename_i d hd
        cases h
        exact written_column (Named.mem_of_find? hd)
      · cases h

theorem written_commaSeparated {columns : List Selector} (hraw : selectedRaws columns = [])
    {qs : List Query} (h : columns.mapM (selected t) = .ok qs) :
    Written t limits (commaSeparated qs).sql := by
  induction columns generalizing qs with
  | nil =>
    cases h
    exact .empty
  | cons s rest ih =>
    rw [selectedRaws, List.filterMap_eq_nil_iff, List.forall_mem_cons] at hraw
    rw [List.mapM_cons, bind_eq_ok_iff] at h
    obtain ⟨q, hq, h⟩ := h
    obtain ⟨others, hothers, h⟩ := bind_eq_ok_iff.mp h
    cases h
    have hfirst : Written t limits q.sql := written_selected hraw.1 hq
    have hrest := ih (List.filterMap_eq_nil_iff.mpr hraw.2) hothers
    cases others with
    | nil => exact hfirst
    | cons other others => exact (hfirst.append written_comma).append hrest

theorem written_selectList {columns : List Selector} (hraw : selectedRaws columns = [])
    {q : Query} (h : selectList t columns = .ok q) : Written t limits q.sql := by
  unfold selectList at h
  split at h
  · cases h
    exact written_allColumns
  · obtain ⟨qs, hqs, rfl⟩ := map_eq_ok_iff.mp h
    exact written_commaSeparated hraw hqs

theorem written_orderTerm {index : Nat} {term : OrderTerm} {s : String}
    (h : orderTerm t index term = .ok s) : Written t limits s := by
  simp only [orderTerm] at h
  split at h
  · split at h
    · rename_i d hd
      cases h
      refine ((written_column (Named.mem_of_find? hd)).append written_blank).append ?_
      cases term.direction <;> exact .piece (.keyword (by decide))
    · cases h
  · cases h

theorem written_orderTerms {index : Nat} {order : List OrderTerm} {terms : List String}
    (h : orderTerms t index order = .ok terms) : ∀ s ∈ terms, Written t limits s := by
  induction order generalizing index terms with
  | nil =>
    cases h
    exact fun s hs => absurd hs List.not_mem_nil
  | cons term rest ih =>
    obtain ⟨first, hfirst, h⟩ := bind_eq_ok_iff.mp h
    obtain ⟨others, hothers, h⟩ := bind_eq_ok_iff.mp h
    cases h
    exact List.forall_mem_cons.mpr ⟨written_orderTerm hfirst, ih hothers⟩

theorem written_orderClause {order : List OrderTerm} {s : String}
    (h : orderClause t order = .ok s) : Written t limits s := by
  unfold orderClause at h
  split at h
  · cases h
    exact .empty
  · obtain ⟨terms, hterms, rfl⟩ := map_eq_ok_iff.mp h
    have hlead : Written t limits " ORDER BY " :=
      written_phrase [" ", "ORDER", " ", "BY", " "] (by decide) rfl
    exact hlead.append (.intercalate written_comma (written_orderTerms hterms))

theorem written_limitClause (limit : Option Limit) :
    Written t ((limit.map Limit.numbers).getD []) (limitClause limit) := by
  have hlead : ∀ limits, Written t limits " LIMIT " := fun limits =>
    written_phrase [" ", "LIMIT", " "] (by decide) rfl
  match limit with
  | none => exact .empty
  | some (.count n) => exact (hlead _).append (.piece (.number List.mem_cons_self))
  | some (.range offset count) =>
    rw [limitClause]
    split
    · exact .empty
    · have hoffset : Written t (Limit.range offset count).numbers (toString offset.toNat) :=
        .piece (.number List.mem_cons_self)
      have hcount : Written t (Limit.range offset count).numbers (toString count.toNat) :=
        .piece (.number (List.mem_cons_of_mem offset List.mem_cons_self))
      exact (((hlead _).append hoffset).append written_comma).append hcount

/-- Every field of a record is written under the name of a column. -/
theorem written_fields {r : Registry} {index : Nat} {record : List (String × Value)}
    {fields : List (String × Cell)} (h : Statement.fields r t index record = .ok fields) :
    ∀ f ∈ fields, Written t limits f.1 := by
  induction record generalizing index fields with
  | nil =>
    cases h
    exact fun f hf => absurd hf List.not_mem_nil
  | cons field rest ih =>
    obtain ⟨name, value⟩ := field
    rw [Statement.fields] at h
    split at h
    · cases h
    · rename_i d hd
      simp only at h
      split at h
      · cases h
      · obtain ⟨others, hothers, h⟩ := bind_eq_ok_iff.mp h
        cases h
        have hname : Written t limits d.name := written_column (Named.mem_of_find? hd)
        exact List.forall_mem_cons.mpr ⟨hname, ih hothers⟩

end Statement

/-! ## Statements -/

namespace Registry

open Statement

variable {r : Registry} {table : String} {q : Query}

theorem written_of_compileSelect {spec : Spec} (hcolumns : selectedRaws spec.columns = [])
    (hraw : writtenRaws spec.filter = []) (hq : r.compileSelect table spec = .ok q) :
    ∃ t, r.table? table = some t ∧ Written t (Request.select spec).limits q.sql := by
  obtain ⟨t, ht, hq⟩ := bind_eq_ok_iff.mp hq
  rw [target_eq_ok_iff] at ht
  obtain ⟨columns, hselected, hq⟩ := bind_eq_ok_iff.mp hq
  obtain ⟨condition, hcondition, hq⟩ := bind_eq_ok_iff.mp hq
  obtain ⟨order, horder, hq⟩ := bind_eq_ok_iff.mp hq
  cases hq
  refine ⟨t, ht, ?_⟩
  generalize hlimits : (Request.select spec).limits = limits
  have hselect : Written t limits "SELECT " := written_phrase ["SELECT", " "] (by decide) rfl
  have hfrom : Written t limits (" FROM " ++ t.name) :=
    (written_phrase [" ", "FROM", " "] (by decide) rfl).append written_table
  have hlimit : Written t limits (limitClause spec.limit) := hlimits ▸ written_limitClause _
  have hrows := ((hselect.append (written_selectList hcolumns hselected)).append hfrom).append
    (written_of_whereClause hraw hcondition)
  exact hrows.append ((written_orderClause horder).append hlimit)

theorem written_of_compileCount {spec : Spec} (hraw : writtenRaws spec.filter = [])
    (hq : r.compileCount table spec = .ok q) :
    ∃ t, r.table? table = some t ∧ Written t [] q.sql := by
  obtain ⟨t, ht, hq⟩ := bind_eq_ok_iff.mp hq
  rw [target_eq_ok_iff] at ht
  obtain ⟨condition, hcondition, hq⟩ := bind_eq_ok_iff.mp hq
  cases hq
  have hlead : Written t [] "SELECT COUNT(*) FROM " :=
    written_phrase ["SELECT", " ", "COUNT", "(", "*", ")", " ", "FROM", " "] (by decide) rfl
  exact ⟨t, ht, (hlead.append written_table).append (written_of_whereClause hraw hcondition)⟩

theorem written_of_compileDelete {spec : Spec} (hraw : writtenRaws spec.filter = [])
    (hq : r.compileDelete table spec = .ok q) :
    ∃ t, r.table? table = some t ∧ Written t [] q.sql := by
  obtain ⟨t, ht, hq⟩ := bind_eq_ok_iff.mp hq
  rw [target_eq_ok_iff] at ht
  obtain ⟨condition, hcondition, hq⟩ := bind_eq_ok_iff.mp hq
  cases hq
  have hlead : Written t [] "DELETE FROM " :=
    written_phrase ["DELETE", " ", "FROM", " "] (by decide) rfl
  exact ⟨t, ht, (hlead.append written_table).append (written_of_whereClause hraw hcondition)⟩

theorem written_of_compileInsert {record : Record} (hq : r.compileInsert table record = .ok q) :
    ∃ t, r.table? table = some t ∧ Written t [] q.sql := by
  obtain ⟨t, ht, hq⟩ := bind_eq_ok_iff.mp hq
  rw [target_eq_ok_iff] at ht
  refine ⟨t, ht, ?_⟩
  have hinto : Written t [] ("INSERT INTO " ++ t.name) :=
    (written_phrase ["INSERT", " ", "INTO", " "] (by decide) rfl).append written_table
  split at hq
  · cases hq
    exact hinto.append (written_phrase [" ", "DEFAULT", " ", "VALUES"] (by decide) rfl)
  · obtain ⟨fields, hfields, hq⟩ := bind_eq_ok_iff.mp hq
    cases hq
    have hcolumns : Written t [] (", ".intercalate (fields.map (·.1))) := by
      refine .intercalate written_comma fun name hname => ?_
      obtain ⟨f, hf, rfl⟩ := List.mem_map.mp hname
      exact written_fields hfields f hf
    have hvalues : Written t [] ") VALUES (" :=
      written_phrase [")", " ", "VALUES", " ", "("] (by decide) rfl
    have hlead := ((hinto.append written_open).append hcolumns).append hvalues
    exact (hlead.append (written_marks fields.length)).append written_close

theorem written_of_compileUpdate {record : Record} {spec : Spec}
    (hraw : writtenRaws spec.filter = []) (hq : r.compileUpdate table record spec = .ok q) :
    ∃ t, r.table? table = some t ∧ Written t [] q.sql := by
  obtain ⟨t, ht, hq⟩ := bind_eq_ok_iff.mp hq
  rw [target_eq_ok_iff] at ht
  split at hq
  · cases hq
  · obtain ⟨fields, hfields, hq⟩ := bind_eq_ok_iff.mp hq
    obtain ⟨condition, hcondition, hq⟩ := bind_eq_ok_iff.mp hq
    cases hq
    have hupdate : Written t [] ("UPDATE " ++ t.name ++ " SET ") :=
      ((written_phrase ["UPDATE", " "] (by decide) rfl).append written_table).append
        (written_phrase [" ", "SET", " "] (by decide) rfl)
    have hassignments :
        Written t [] (", ".intercalate (fields.map fun f => f.1 ++ " = ?")) := by
      refine .intercalate written_comma fun s hs => ?_
      obtain ⟨f, hf, rfl⟩ := List.mem_map.mp hs
      exact (written_fields hfields f hf).append (written_equals.append written_mark)
    exact ⟨t, ht, (hupdate.append hassignments).append (written_of_whereClause hraw hcondition)⟩

/-- **Without raw clauses a statement is made of the vocabulary.** -/
theorem written_of_compile {request : Request} (hcolumns : selectedRaws request.columns = [])
    (hraw : writtenRaws request.filter = []) (hq : request.compile r table = .ok (some q)) :
    ∃ t, r.table? table = some t ∧ Written t request.limits q.sql := by
  cases request with
  | select spec =>
    obtain ⟨_, hq, ⟨⟩⟩ := map_eq_ok_iff.mp hq
    exact written_of_compileSelect hcolumns hraw hq
  | count spec =>
    obtain ⟨_, hq, ⟨⟩⟩ := map_eq_ok_iff.mp hq
    exact written_of_compileCount hraw hq
  | delete spec =>
    obtain ⟨_, hq, ⟨⟩⟩ := map_eq_ok_iff.mp hq
    exact written_of_compileDelete hraw hq
  | insert record =>
    obtain ⟨_, hq, ⟨⟩⟩ := map_eq_ok_iff.mp hq
    exact written_of_compileInsert hq
  | update record spec =>
    obtain ⟨_, hq, ⟨⟩⟩ := map_eq_ok_iff.mp hq
    exact written_of_compileUpdate hraw hq
  | condition filter connective =>
    have hne : filter ≠ [] := by
      rintro rfl
      obtain ⟨t, -, hq⟩ := bind_eq_ok_iff.mp hq
      cases hq
    obtain ⟨t, ht, _, hq, ⟨⟩⟩ := (compileWhere_eq_ok_iff hne).mp hq
    exact ⟨t, ht, written_of_compileFrom hraw hq⟩

end Registry

/-! ## Characters -/

/-- The characters of a statement that are no name characters. -/
def signChars : List Char := [' ', ',', '(', ')', '*', '?', '=', '!', '<', '>']

/-- Whether a character can stand in a statement. -/
def isStatementChar (c : Char) : Bool := Text.isNameChar c || signChars.contains c

/-- Characters that quote, end a statement or start a comment. -/
def escapes : List Char := ['\x27', '"', '\x60', '[', ']', ';', '-', '/']

theorem notMem_escapes {c : Char} (hc : isStatementChar c = true) : c ∉ escapes := by
  have hnone : escapes.all (fun d => !isStatementChar d) = true := by decide
  intro hmem
  have hno := List.all_eq_true.mp hnone c hmem
  rw [hc] at hno
  cases hno

/-- The vocabulary of a well-named table has statement characters only. -/
theorem Lexeme.chars (ht : t.WellNamed) {s : String} (h : Lexeme t limits s) :
    ∀ c ∈ s.toList, isStatementChar c = true := by
  have ofName : ∀ {name : String}, isIdentifier name = true → sameName s name = true →
      ∀ c ∈ s.toList, isStatementChar c = true := by
    intro name hname hsame c hc
    rw [isStatementChar, isNameChar_of_sameName hname hsame c hc, Bool.true_or]
  cases h with
  | keyword hs =>
    have hall : keywords.all (fun s => s.toList.all isStatementChar) = true := by decide
    exact List.all_eq_true.mp (List.all_eq_true.mp hall s hs)
  | sign hs =>
    have hall : signs.all (fun s => s.toList.all isStatementChar) = true := by decide
    exact List.all_eq_true.mp (List.all_eq_true.mp hall s hs)
  | operator o =>
    have hall : o.name.toList.all isStatementChar = true := by
      cases o with
      | compare c => cases c <;> decide
      | _ => decide
    exact List.all_eq_true.mp hall
  | placeholder =>
    have hall : "?".toList.all isStatementChar = true := by decide
    exact List.all_eq_true.mp hall
  | number hn =>
    intro c hc
    have halphanum : c.isAlphanum = true := by
      rw [Char.isAlphanum, isDigit_of_mem_toString hc, Bool.or_true]
    rw [isStatementChar, Text.isNameChar_of_isAlphanum halphanum, Bool.true_or]
  | table hs => exact ofName ht.name hs
  | column hd hs => exact ofName (ht.columns _ hd) hs

namespace Registry

variable {r : Registry} {table : String} {q : Query}

/-- **No text of a request gets into a statement.**  If there are no raw clauses, the statement of a
request on a registry is made of the vocabulary of its table.  So its characters are name characters
and the signs of the vocabulary, and none of them quotes, ends a statement or starts a comment. -/
theorem vocabulary_of_compile (hr : r.Reachable) {request : Request}
    (hcolumns : selectedRaws request.columns = []) (hraw : writtenRaws request.filter = [])
    (hq : request.compile r table = .ok (some q)) :
    (∃ t, r.table? table = some t ∧ Written t request.limits q.sql) ∧
      ∀ c ∈ q.sql.toList, isStatementChar c = true ∧ c ∉ escapes := by
  obtain ⟨t, ht, hwritten⟩ := written_of_compile hcolumns hraw hq
  refine ⟨⟨t, ht, hwritten⟩, fun c hc => ?_⟩
  have hchar := hwritten.chars
    (fun _ hs => hs.chars (hr.wellNamed t (mem_tables_of_table? ht))) c hc
  exact ⟨hchar, notMem_escapes hchar⟩

/-- A selection whose operand tries to leave its place. -/
def intruding : Request :=
  .select
    { filter := [.column ⟨" AGE ", "not  in",
        some (.value (.text "1, 2); DROP TABLE user; --")), none⟩]
      columns := [.column " City"]
      limit := some (.range 5 10)
      connective := none
      order := [⟨"age", .desc⟩] }

theorem vocabulary_of_intruding :
    ofUsers.Reachable ∧ selectedRaws intruding.columns = [] ∧ writtenRaws intruding.filter = [] ∧
      intruding.compile ofUsers "user" = .ok (some
        ⟨"SELECT city FROM user WHERE (age NOT IN (?, ?)) ORDER BY age DESC LIMIT 5, 10",
          [.text "1", .text "2); DROP TABLE user; --"]⟩) ∧
      Written users [5, 10]
        "SELECT city FROM user WHERE (age NOT IN (?, ?)) ORDER BY age DESC LIMIT 5, 10" := by
  have hcolumns : selectedRaws intruding.columns = [] := rfl
  have hraw : writtenRaws intruding.filter = [] := rfl
  have hq : intruding.compile ofUsers "user" = .ok (some
      ⟨"SELECT city FROM user WHERE (age NOT IN (?, ?)) ORDER BY age DESC LIMIT 5, 10",
        [.text "1", .text "2); DROP TABLE user; --"]⟩) := rfl
  obtain ⟨⟨t, ht, hwritten⟩, -⟩ := vocabulary_of_compile ofUsers_reachable hcolumns hraw hq
  cases ht
  exact ⟨ofUsers_reachable, hcolumns, hraw, hq, hwritten⟩

end Registry

end FilterStore
