import FilterStore.Dump.Replay
import FilterStore.Proofs.Sql.Reading
import FilterStore.Proofs.Text.Trim

/-!
# The statements that read and write whole rows

A statement that names a table and its columns between quotes is read as what it was written for,
whatever the names are: as the query for these columns of that table, and as the insertion of one
row into them, which gives a parameter to each.  Only a null character, at which a text ends, may
not stand in a name.
-/

namespace FilterStore.Sql

open Reader
open Replay (insertSql quotedNames selectSql)
open Text (doubleQuotes quoteIdent)
open Token (Avoids Solid Spells)

/-! ## The texts -/

theorem solid_intercalate {α : Type} {text : α → String} (solid : ∀ x, Solid (text x).toList)
    {xs : List α} (nonempty : xs ≠ []) : Solid (", ".intercalate (xs.map text)).toList := by
  match xs, nonempty with
  | [x], _ =>
    rw [List.map_singleton, String.intercalate_singleton]
    exact solid x
  | x :: y :: xs, _ =>
    rw [List.map_cons, List.map_cons, String.intercalate_cons_cons, String.toList_append,
      String.toList_append]
    exact ((solid x).append _).append _

/-- Items with commas between them spell what each of them spells.  `p` is what may not follow an
item. -/
theorem spells_intercalate {α : Type} {p : Char → Bool} (text : α → String)
    {essence : α → TokenKind × String}
    (item : ∀ x rest es, Spells rest es → Avoids p rest →
      Spells ((text x).toList ++ rest) (essence x :: es))
    (solid : ∀ x, Solid (text x).toList)
    (hp : p ',' = false) {xs : List α} (nonempty : xs ≠ []) {rest : List Char}
    {es : List (TokenKind × String)} (h : Spells rest es) (stops : Avoids p rest) :
    Spells ((", ".intercalate (xs.map text)).toList ++ rest)
      ((xs.map essence).intersperse comma ++ es) := by
  induction xs with
  | nil => exact absurd rfl nonempty
  | cons x xs ih =>
    cases xs with
    | nil =>
      rw [List.map_singleton, String.intercalate_singleton]
      exact item x rest es h stops
    | cons y xs =>
      have split : (", ".intercalate ((x :: y :: xs).map text)).toList ++ rest =
          (text x).toList ++ ',' :: ' ' ::
            ((", ".intercalate ((y :: xs).map text)).toList ++ rest) := by
        rw [List.map_cons, List.map_cons, String.intercalate_cons_cons, String.toList_append,
          String.toList_append, List.append_assoc, List.append_assoc]
        rfl
      have inner := ih (List.cons_ne_nil _ _)
      rw [split]
      refine item x _ _ (.symbol (.space inner ?_) (by decide)) fun d hd => ?_
      · exact (solid_intercalate solid (List.cons_ne_nil _ _)).append rest
      · cases hd
        exact hp

theorem spells_quoteIdent {rest : List Char} {es : List (TokenKind × String)}
    (h : Spells rest es) (name : String) (stops : Avoids (· == '"') rest) :
    Spells ((quoteIdent name).toList ++ rest) (quotedToken name :: es) := by
  rw [Token.toList_quoteIdent]
  exact h.quotedName _ stops

/-- Names between quotes with commas between them. -/
theorem spells_quotedNames {names : List String} (nonempty : names ≠ []) {rest : List Char}
    {es : List (TokenKind × String)} (h : Spells rest es) (stops : Avoids (· == '"') rest) :
    Spells ((quotedNames names).toList ++ rest)
      ((names.map quotedToken).intersperse comma ++ es) := by
  exact spells_intercalate quoteIdent (p := (· == '"')) (fun name _ _ h => spells_quoteIdent h name)
    Token.solid_quoteIdent (by decide) nonempty h stops

/-- Question marks with commas between them. -/
theorem spells_questionMarks {columns : List String} (nonempty : columns ≠ []) {rest : List Char}
    {es : List (TokenKind × String)} (h : Spells rest es) (stops : Avoids Char.isDigit rest) :
    Spells ((", ".intercalate (columns.map fun _ => "?")).toList ++ rest)
      ((List.replicate columns.length questionMark).intersperse comma ++ es) := by
  have marks : columns.map (fun _ => questionMark) = List.replicate columns.length questionMark :=
    List.map_const' ..
  rw [← marks]
  refine spells_intercalate (fun _ => "?") (p := Char.isDigit) ?_ ?_ (by decide) nonempty h stops
  · intro _ rest es h stops
    exact h.parameter stops
  · exact fun _ => ⟨'?', [], rfl, by decide⟩

/-- The tokens of a query for columns of a table. -/
def selectTokens (table : String) (columns : List String) : List (TokenKind × String) :=
  (.word, "SELECT") ::
    ((columns.map quotedToken).intersperse comma ++ [(.word, "FROM"), quotedToken table])

/-- The tokens of an insertion of a row into columns of a table. -/
def insertTokens (table : String) (columns : List String) : List (TokenKind × String) :=
  (.word, "INSERT") :: (.word, "OR") :: (.word, "IGNORE") :: (.word, "INTO") ::
    quotedToken table :: (.symbol, "(") ::
      ((columns.map quotedToken).intersperse comma ++ (.symbol, ")") :: (.word, "VALUES") ::
        (.symbol, "(") ::
          ((List.replicate columns.length questionMark).intersperse comma ++ [(.symbol, ")")]))

theorem toList_selectSql (table : String) (columns : List String) :
    (selectSql table columns).toList = "SELECT ".toList ++ ((quotedNames columns).toList ++
      (" FROM ".toList ++ (quoteIdent table).toList)) := by
  unfold selectSql
  simp only [String.toList_append, List.append_assoc]

theorem toList_insertSql (table : String) (columns : List String) :
    (insertSql table columns).toList = "INSERT OR IGNORE INTO ".toList ++
      ((quoteIdent table).toList ++ (" (".toList ++ ((quotedNames columns).toList ++
        (") VALUES (".toList ++ ((", ".intercalate (columns.map fun _ => "?")).toList ++
          ")".toList))))) := by
  unfold insertSql
  simp only [String.toList_append, List.append_assoc]

section Parts

variable {rest : List Char} {es : List (TokenKind × String)}

theorem spells_select (h : Spells rest es) (solid : Solid rest) :
    Spells ("SELECT ".toList ++ rest) ((.word, "SELECT") :: es) :=
  h.keyword solid 'S' "ELECT".toList (by decide) (by decide)

theorem spells_from (h : Spells rest es) (solid : Solid rest) :
    Spells (" FROM ".toList ++ rest) ((.word, "FROM") :: es) :=
  (h.keyword solid 'F' "ROM".toList (by decide) (by decide)).space ⟨'F', _, rfl, by decide⟩

theorem spells_insertInto (h : Spells rest es) (solid : Solid rest) :
    Spells ("INSERT OR IGNORE INTO ".toList ++ rest)
      ((.word, "INSERT") :: (.word, "OR") :: (.word, "IGNORE") :: (.word, "INTO") :: es) := by
  have into := h.keyword solid 'I' "NTO".toList (by decide) (by decide)
  have ignore := into.keyword ⟨'I', _, rfl, by decide⟩ 'I' "GNORE".toList
    (by decide) (by decide)
  have or := ignore.keyword ⟨'I', _, rfl, by decide⟩ 'O' "R".toList (by decide) (by decide)
  exact or.keyword ⟨'O', _, rfl, by decide⟩ 'I' "NSERT".toList (by decide) (by decide)

theorem spells_bracket (h : Spells rest es) : Spells (" (".toList ++ rest) ((.symbol, "(") :: es) :=
  (h.symbol (c := '(') (by decide)).space ⟨'(', _, rfl, by decide⟩

theorem spells_values (h : Spells rest es) :
    Spells (") VALUES (".toList ++ rest)
      ((.symbol, ")") :: (.word, "VALUES") :: (.symbol, "(") :: es) := by
  have word := (h.symbol (c := '(') (by decide)).keyword ⟨'(', _, rfl, by decide⟩ 'V' "ALUES".toList
    (by decide) (by decide)
  exact (word.space ⟨'V', _, rfl, by decide⟩).symbol (c := ')') (by decide)

theorem solid_quotedNames {names : List String} (nonempty : names ≠ []) :
    Solid (quotedNames names).toList :=
  solid_intercalate Token.solid_quoteIdent nonempty

end Parts

theorem spells_selectSql (table : String) {columns : List String} (nonempty : columns ≠ []) :
    Spells (selectSql table columns).toList (selectTokens table columns) := by
  have named := spells_quoteIdent Token.spells_nil table (Token.avoids_nil _)
  rw [List.append_nil] at named
  have source := spells_from named (Token.solid_quoteIdent table)
  rw [toList_selectSql]
  refine spells_select (spells_quotedNames nonempty source ?_)
    ((solid_quotedNames nonempty).append _)
  intro d hd
  cases hd
  rfl

theorem spells_insertSql (table : String) {columns : List String} (nonempty : columns ≠ []) :
    Spells (insertSql table columns).toList (insertTokens table columns) := by
  have marks : Spells ((", ".intercalate (columns.map fun _ => "?")).toList ++ ")".toList)
      ((List.replicate columns.length questionMark).intersperse comma ++ [(.symbol, ")")]) := by
    refine spells_questionMarks nonempty (Token.spells_nil.symbol (c := ')') (by decide)) ?_
    intro d hd
    cases hd
    rfl
  have names := spells_quotedNames nonempty (spells_values marks) fun d hd => by
    cases hd
    rfl
  have target := spells_quoteIdent (spells_bracket names) table fun d hd => by
    cases hd
    rfl
  rw [toList_insertSql]
  exact spells_insertInto target ((Token.solid_quoteIdent table).append _)

/-! ## Null characters -/

/-- There is no null character in a text. -/
def NulFree (s : String) : Prop := ∀ c ∈ s.toList, c ≠ Char.ofNat 0

instance (s : String) : Decidable (NulFree s) := List.decidableBAll ..

section NulFree

variable {a b : String}

/-- Such a text is seen as a whole. -/
theorem NulFree.seen (h : NulFree a) : Token.seen a.toList = a.toList :=
  List.takeWhile_eq_self_iff.mpr fun c hc => bne_iff_ne.mpr (h c hc)

theorem NulFree.exists_ofText {es : List (TokenKind × String)} (h : NulFree a)
    (spells : Spells a.toList es) :
    ∃ ts finish, Token.ofText a = ts ++ [Token.finishing [] finish] ∧
      ts.map Token.essence = es := by
  refine Token.exists_ofText ?_
  rwa [h.seen]

theorem NulFree.append (ha : NulFree a) (hb : NulFree b) : NulFree (a ++ b) := by
  unfold NulFree
  rw [String.toList_append]
  exact List.forall_mem_append.mpr ⟨ha, hb⟩

theorem NulFree.quoteIdent (h : NulFree a) : NulFree (quoteIdent a) := by
  have kept : ∀ cs : List Char, ∀ c ∈ doubleQuotes cs, c ∈ cs := by
    intro cs
    induction cs with
    | nil => exact fun c hc => hc
    | cons d cs ih =>
      intro c hc
      unfold doubleQuotes at hc
      split at hc
      case isTrue quote =>
        subst quote
        simp only [List.mem_cons] at hc ⊢
        exact hc.elim .inl fun h => h.imp_right (ih c)
      case isFalse =>
        simp only [List.mem_cons] at hc ⊢
        exact hc.imp_right (ih c)
  unfold NulFree
  rw [Token.toList_quoteIdent]
  intro c hc
  unfold Token.quotedChars at hc
  simp only [List.mem_cons, List.mem_append, List.not_mem_nil, or_false] at hc
  rcases hc with rfl | hc | rfl
  · decide
  · exact h c (kept _ c hc)
  · decide

theorem nulFree_quotedNames {names : List String} (h : ∀ name ∈ names, NulFree name) :
    NulFree (quotedNames names) := by
  refine Text.intercalate_induct (P := NulFree) (by decide) NulFree.append (by decide)
    fun s hs => ?_
  obtain ⟨name, hname, rfl⟩ := List.mem_map.mp hs
  exact (h name hname).quoteIdent

theorem nulFree_selectSql {table : String} {columns : List String} (ht : NulFree table)
    (hc : ∀ column ∈ columns, NulFree column) : NulFree (selectSql table columns) :=
  (((by decide : NulFree "SELECT ").append (nulFree_quotedNames hc)).append (by decide)).append
    ht.quoteIdent

theorem nulFree_insertSql {table : String} {columns : List String} (ht : NulFree table)
    (hc : ∀ column ∈ columns, NulFree column) : NulFree (insertSql table columns) := by
  have marks : NulFree (", ".intercalate (columns.map fun _ => "?")) := by
    refine Text.intercalate_induct (P := NulFree) (by decide) NulFree.append (by decide)
      fun s hs => ?_
    obtain ⟨-, -, rfl⟩ := List.mem_map.mp hs
    decide
  have into : NulFree "INSERT OR IGNORE INTO " := by decide
  exact (((((into.append ht.quoteIdent).append (by decide)).append
    (nulFree_quotedNames hc)).append (by decide)).append marks).append (by decide)

end NulFree

/-! ## The statements as they are read -/

/-- The query for columns of a table. -/
def rowQuery (table : String) (columns : List Projection) : Select :=
  namedSelect false columns (some ⟨table, table⟩) always [] always [] unlimited noOffset

/-- The insertion of a row into columns of a table. -/
def rowInsertion (table : String) (columns : List String) (values : List Expr) : Change :=
  .insert (some .ignore) table (some columns) (.values [values])

section Statements

variable {table : String} {columns : List String} {ts : List Token} {finish : Nat}

theorem exists_plain {items : List Token} (nonempty : columns ≠ [])
    (h : items.map Token.essence = (columns.map quotedToken).intersperse comma) :
    ∃ t more, items = t :: more ∧ t.IsPlain := by
  match columns, nonempty with
  | [name], _ =>
    obtain ⟨t, rfl, ht⟩ := exists_of_singleton h
    exact ⟨t, [], rfl, isPlain_quoted ht⟩
  | name :: _ :: _, _ =>
    obtain ⟨t, mark, more, rfl, ht, -, -⟩ := exists_of_intersperse h
    exact ⟨t, mark :: more, rfl, isPlain_quoted ht⟩

theorem run_tableName {t next : Token} {n : Nat} {m : List (String × Nat)}
    (ht : t.essence = quotedToken table) (hn : next.isSymbol "." = false) :
    tableName.run ⟨t :: next :: ts, n, m⟩ = .ok (table, ⟨next :: ts, n, m⟩) := by
  unfold tableName
  rw [run_name_bind (Token.name?_quoted ht), run_symbol?_bind, hn]
  rfl

theorem exists_run_query (finish fuel : Nat) (nonempty : columns ≠ [])
    (h : ts.map Token.essence = selectTokens table columns)
    (enough : columns.length + 3 ≤ fuel) :
    ∃ ps, (query fuel).run ⟨ts ++ [Token.finishing [] finish], 0, []⟩ =
        .ok (rowQuery table ps, ⟨[Token.finishing [] finish], 0, []⟩) ∧
      List.Forall₂ Shows columns ps := by
  obtain ⟨fuel, rfl⟩ : ∃ k, fuel = k + 1 := ⟨fuel - 1, by omega⟩
  obtain ⟨select, ts, rfl, hselect, h⟩ := List.map_eq_cons_iff.mp h
  obtain ⟨items, ts, rfl, hitems, h⟩ := List.map_eq_append_iff.mp h
  obtain ⟨from', ts, rfl, hfrom, h⟩ := List.map_eq_cons_iff.mp h
  obtain ⟨name, ts, rfl, hname, h⟩ := List.map_eq_cons_iff.mp h
  obtain rfl := List.map_eq_nil_iff.mp h
  obtain ⟨ps, read, shows⟩ := exists_run_projections (name :: [Token.finishing [] finish]) 0 []
    fuel nonempty hitems hfrom (by omega)
  have select : select.isKeyword "SELECT" = true := by
    rw [select.isKeyword_eq, hselect]
    decide
  have word : from'.isKeyword "FROM" = true := by
    rw [from'.isKeyword_eq, hfrom]
    decide
  obtain ⟨t, more, rfl, plain⟩ := exists_plain nonempty hitems
  have source : source.run ⟨from' :: name :: [Token.finishing [] finish], 0, []⟩ =
      .ok (some ⟨table, table⟩, ⟨[Token.finishing [] finish], 0, []⟩) := by
    have ungiven : givenName?.run ⟨[Token.finishing [] finish], 0, []⟩ =
        .ok (none, ⟨[Token.finishing [] finish], 0, []⟩) := rfl
    unfold Sql.source
    rw [run_keyword?_bind, word, if_pos rfl]
    simp only [if_true]
    rw [run_bind_of_ok (run_tableName hname rfl), run_bind_of_ok ungiven]
    rfl
  have done : ∀ w, (Token.finishing [] finish).isKeyword w = false := fun _ => rfl
  refine ⟨ps, ?_, shows⟩
  unfold query
  simp only [List.cons_append, List.append_assoc, run_keyword_bind select, run_keyword?_bind,
    plain.isKeyword, Bool.false_eq_true, if_false, List.nil_append, Bool.not_false, if_true]
  rw [← List.cons_append, run_bind_of_ok read, run_bind_of_ok source]
  simp only [run_keyword?_bind, done, Bool.false_eq_true, if_false, pure_bind]
  rfl

/-- A statement on rows to which all tokens belong is what a text of these tokens holds. -/
theorem parsed_ofText {s : String} {first : Token} {change : Change} {parameters : Nat}
    (cut : Token.ofText s = first :: ts ++ [Token.finishing [] finish])
    (word : first.essence.1 = .word)
    (read : change?.run ⟨first :: ts ++ [Token.finishing [] finish], 0, []⟩ =
      .ok (some change, ⟨[Token.finishing [] finish], parameters, []⟩)) :
    Parsed.ofText s = .ok (some ⟨.change change, parameters, ""⟩) := by
  have unmarked : first.isSymbol ";" = false := by
    rw [first.isSymbol_eq, word]
    rfl
  have kind : first.kind = .word := word
  have ended : endedStatement.run ⟨first :: ts ++ [Token.finishing [] finish], 0, []⟩ =
      .ok (.change change, ⟨[Token.finishing [] finish], parameters, []⟩) := by
    unfold endedStatement bareStatement
    rw [bind_assoc, run_bind_of_ok read]
    rfl
  unfold Parsed.ofText Parsed.ofTokens
  rw [cut, List.cons_append, List.dropWhile_cons_of_neg (by simp [unmarked])]
  simp only [kind]
  rw [← List.cons_append, ended]
  rfl

/-- The query for the columns of a table is read as such. -/
theorem exists_parsed_selectSql (table : String) (columns : List String)
    (nonempty : columns ≠ []) (ht : NulFree table) (hc : ∀ column ∈ columns, NulFree column) :
    ∃ ps, Parsed.ofText (selectSql table columns) =
        .ok (some ⟨.change (.select (rowQuery table ps)), 0, ""⟩) ∧
      List.Forall₂ Shows columns ps := by
  obtain ⟨ts, finish, cut, h⟩ := (nulFree_selectSql ht hc).exists_ofText
    (spells_selectSql table nonempty)
  obtain ⟨first, rest, rfl, hfirst, -⟩ := List.map_eq_cons_iff.mp h
  have select : first.isKeyword "SELECT" = true := by
    rw [first.isKeyword_eq, hfirst]
    decide
  have long : columns.length ≤ (first :: rest).length := by
    have lengths := congrArg List.length h
    simp only [List.length_map, selectTokens, List.length_cons, List.length_append,
      List.length_intersperse, List.length_nil] at lengths ⊢
    omega
  obtain ⟨ps, read, shows⟩ := exists_run_query finish
    (8 * (first :: rest ++ [Token.finishing [] finish]).length + 8) nonempty h
    (by simp only [List.length_append, List.length_singleton]; omega)
  refine ⟨ps, parsed_ofText cut (by rw [hfirst]) ?_, shows⟩
  unfold change?
  rw [List.cons_append, run_peek_bind, select, if_pos rfl, run_depth_bind, ← List.cons_append,
    run_bind_of_ok read]
  rfl

/-! ### The insertion -/

theorem isKeyword_of_essence {t : Token} {w : String} (h : t.essence = (.word, w))
    (upper : Text.upper w = w) : t.isKeyword w = true := by
  rw [t.isKeyword_eq, h, upper, beq_self_eq_true, beq_self_eq_true, Bool.and_self]

theorem isSymbol_of_essence {t : Token} {w : String} (h : t.essence = (.symbol, w)) :
    t.isSymbol w = true := by
  rw [t.isSymbol_eq, h, beq_self_eq_true, beq_self_eq_true, Bool.and_self]

theorem run_bracketedNames {left right : Token} {names : List Token} (nonempty : columns ≠ [])
    (hleft : left.essence = (.symbol, "("))
    (hnames : names.map Token.essence = (columns.map quotedToken).intersperse comma)
    (hright : right.essence = (.symbol, ")")) :
    bracketedNames.run ⟨left :: (names ++ right :: ts), 0, []⟩ = .ok (columns, ⟨ts, 0, []⟩) := by
  have positive : 0 < columns.length := List.length_pos_iff.mpr nonempty
  have size := congrArg List.length hnames
  simp only [List.length_map, List.length_intersperse] at size
  have read := run_separated_name ts 0 [] (8 * (names ++ right :: ts).length + 8) nonempty hnames
    hright (by
      simp only [List.length_append, size]
      omega)
  unfold bracketedNames
  rw [run_symbol_bind (isSymbol_of_essence hleft), run_depth_bind, run_bind_of_ok read,
    run_symbol_bind (isSymbol_of_essence hright)]
  rfl

theorem exists_run_insertSource (finish : Nat) {values left right : Token} {marks : List Token}
    {count : Nat} (positive : 0 < count) (hvalues : values.essence = (.word, "VALUES"))
    (hleft : left.essence = (.symbol, "("))
    (hmarks : marks.map Token.essence = (List.replicate count questionMark).intersperse comma)
    (hright : right.essence = (.symbol, ")")) :
    ∃ es, insertSource.run
        ⟨values :: left :: (marks ++ [right, Token.finishing [] finish]), 0, []⟩ =
        .ok (.values [es], ⟨[Token.finishing [] finish], count, []⟩) ∧
      List.Forall₂ Refers (List.range' 1 count) es := by
  have size := congrArg List.length hmarks
  simp only [List.length_map, List.length_intersperse, List.length_replicate] at size
  obtain ⟨es, read, refers⟩ := exists_run_exprs [Token.finishing [] finish] 0 []
    (8 * (marks ++ [right, Token.finishing [] finish]).length + 8) positive hmarks hright (by
      simp only [List.length_append, size]
      omega)
  rw [Nat.zero_add] at read refers
  have row : valueRow.run ⟨left :: (marks ++ [right, Token.finishing [] finish]), 0, []⟩ =
      .ok (es, ⟨[Token.finishing [] finish], count, []⟩) := by
    unfold valueRow
    rw [run_symbol_bind (isSymbol_of_essence hleft), run_depth_bind, run_bind_of_ok read,
      run_symbol_bind (isSymbol_of_essence hright)]
    rfl
  have rows : ∀ fuel, (separated valueRow (fuel + 1)).run
      ⟨left :: (marks ++ [right, Token.finishing [] finish]), 0, []⟩ =
      .ok ([es], ⟨[Token.finishing [] finish], count, []⟩) := by
    intro fuel
    unfold separated
    rw [run_bind_of_ok row]
    rfl
  refine ⟨es, ?_, refers⟩
  unfold insertSource
  rw [run_keyword?_bind, isKeyword_of_essence hvalues (by decide), if_pos rfl]
  simp only [if_true]
  rw [run_depth_bind, run_bind_of_ok (rows _)]
  rfl

theorem run_conflict_ignore {or ignore : Token} (hor : or.essence = (.word, "OR"))
    (hignore : ignore.essence = (.word, "IGNORE")) :
    conflict.run ⟨or :: ignore :: ts, 0, []⟩ = .ok (some .ignore, ⟨ts, 0, []⟩) := by
  unfold conflict conflictWord
  rw [run_keyword?_bind, isKeyword_of_essence hor (by decide), if_pos rfl]
  simp only [if_true]
  rw [bind_assoc, run_keyword?_bind, isKeyword_of_essence hignore (by decide), if_pos rfl]
  rfl

/-- An insertion that leaves rows out is read behind its first three words. -/
theorem run_change_ignoring {insert or ignore : Token}
    (hinsert : insert.essence = (.word, "INSERT")) (hor : or.essence = (.word, "OR"))
    (hignore : ignore.essence = (.word, "IGNORE")) :
    change?.run ⟨insert :: or :: ignore :: ts, 0, []⟩ =
      (insertion (some .ignore) >>= fun c => pure (some c)).run ⟨ts, 0, []⟩ := by
  have unselected : insert.isKeyword "SELECT" = false := by
    rw [insert.isKeyword_eq, hinsert]
    decide
  unfold change?
  simp only [run_peek_bind, unselected, Bool.false_eq_true, if_false, run_keyword?_bind,
    isKeyword_of_essence hinsert (by decide), if_true]
  rw [run_bind_of_ok (run_conflict_ignore hor hignore)]

theorem exists_run_insertion (finish : Nat) (nonempty : columns ≠ [])
    (h : ts.map Token.essence = insertTokens table columns) :
    ∃ es, change?.run ⟨ts ++ [Token.finishing [] finish], 0, []⟩ =
        .ok (some (rowInsertion table columns es),
          ⟨[Token.finishing [] finish], columns.length, []⟩) ∧
      List.Forall₂ Refers (List.range' 1 columns.length) es := by
  obtain ⟨insert, ts, rfl, hinsert, h⟩ := List.map_eq_cons_iff.mp h
  obtain ⟨or, ts, rfl, hor, h⟩ := List.map_eq_cons_iff.mp h
  obtain ⟨ignore, ts, rfl, hignore, h⟩ := List.map_eq_cons_iff.mp h
  obtain ⟨into, ts, rfl, hinto, h⟩ := List.map_eq_cons_iff.mp h
  obtain ⟨name, ts, rfl, hname, h⟩ := List.map_eq_cons_iff.mp h
  obtain ⟨left, ts, rfl, hleft, h⟩ := List.map_eq_cons_iff.mp h
  obtain ⟨names, ts, rfl, hnames, h⟩ := List.map_eq_append_iff.mp h
  obtain ⟨right, ts, rfl, hright, h⟩ := List.map_eq_cons_iff.mp h
  obtain ⟨values, ts, rfl, hvalues, h⟩ := List.map_eq_cons_iff.mp h
  obtain ⟨left', ts, rfl, hleft', h⟩ := List.map_eq_cons_iff.mp h
  obtain ⟨marks, ts, rfl, hmarks, h⟩ := List.map_eq_append_iff.mp h
  obtain ⟨right', ts, rfl, hright', h⟩ := List.map_eq_cons_iff.mp h
  obtain rfl := List.map_eq_nil_iff.mp h
  obtain ⟨es, source, refers⟩ := exists_run_insertSource finish
    (List.length_pos_iff.mpr nonempty) hvalues hleft' hmarks hright'
  refine ⟨es, ?_, refers⟩
  simp only [List.cons_append, List.append_assoc, List.nil_append]
  rw [run_change_ignoring hinsert hor hignore]
  unfold insertion
  simp only [bind_assoc, run_keyword_bind (isKeyword_of_essence hinto (by decide))]
  rw [run_bind_of_ok (run_tableName hname (not_isSymbol hleft (by decide)))]
  simp only [run_peek_bind, isSymbol_of_essence hleft, if_true, bind_assoc]
  rw [run_bind_of_ok (run_bracketedNames nonempty hleft hnames hright)]
  simp only [pure_bind]
  rw [run_bind_of_ok source]
  rfl

/-- The insertion of a row into the columns of a table is read as such. -/
theorem exists_parsed_insertSql (table : String) (columns : List String)
    (nonempty : columns ≠ []) (ht : NulFree table) (hc : ∀ column ∈ columns, NulFree column) :
    ∃ es, Parsed.ofText (insertSql table columns) =
        .ok (some ⟨.change (rowInsertion table columns es), columns.length, ""⟩) ∧
      List.Forall₂ Refers (List.range' 1 columns.length) es := by
  obtain ⟨ts, finish, cut, h⟩ := (nulFree_insertSql ht hc).exists_ofText
    (spells_insertSql table nonempty)
  obtain ⟨first, rest, rfl, hfirst, -⟩ := List.map_eq_cons_iff.mp h
  obtain ⟨es, read, refers⟩ := exists_run_insertion finish nonempty h
  exact ⟨es, parsed_ofText cut (by rw [hfirst]) read, refers⟩

end Statements

end FilterStore.Sql
