import FilterStore.Proofs.Dump.Columns

/-!
# What the statements on rows name

The rows of a table are read and inserted by statements that are put together from the names of the
table and its columns, and these names may come from anywhere.  Each name is written between quotes,
with every quote inside it doubled, so that it ends itself: read by the rule that a doubled quote
stands for one and a single quote ends the name, it is the name again, and what follows is left as
it was (`Text.readQuoted_quoteIdent`).

So a statement should name the table and the columns it was written for, and nothing else
(`NamesExactly`).  One character is in the way.  A text of a statement ends at a null character, and
there is no other way to write one between quotes.  A statement for a name with a null character
therefore ends inside of that name, where no quote closes it, and it is refused at this token
(`refused_selectSql`, `refused_insertSql`).  It names nothing then --- no other table, either.

Both together: the statements name exactly what they were written for if and only if there is no
null character in any of the names (`namesExactly_iff`).  The names of a table that exists have
none, so a dump always names what it reads (`Engine.Table.Proper.namesExactly`).  Nor have recorded
columns that are found among those of a table.  But a table is looked up under its name up to a null
character, and so a document can have rows for a table that does not exist, which are checked
against the columns of another table and then fail with their statement.
-/

namespace FilterStore.Sql

open Reader
open Replay (insertSql quotedNames selectSql)
open Text (doubleQuotes quoteIdent)
open Token (Avoids Solid Spells quotedChars seen)

/-! ## Readers that meet what is no token -/

section Refusal

variable {α β : Type} {s s' : Remainder} {t next : Token} (ts : List Token) (n : Nat)
  (m : List (String × Nat))

/-- A reader fails at what is no token. -/
def Reader.Refuses (r : Reader α) (s : Remainder) : Prop :=
  ∃ text offset, r.run s = .error (.unrecognized text offset)

theorem run_bind_of_error {r : Reader α} {e : Fault} (failed : r.run s = .error e)
    (f : α → Reader β) : (r >>= f).run s = .error e := by
  rw [Reader.run_bind, failed]

theorem Reader.Refuses.bind {r : Reader α} (h : Refuses r s) (f : α → Reader β) :
    Refuses (r >>= f) s := by
  obtain ⟨text, offset, failed⟩ := h
  exact ⟨text, offset, run_bind_of_error failed f⟩

theorem Reader.Refuses.behind {r : Reader α} {f : α → Reader β} {a : α} (h : Refuses (f a) s')
    (read : r.run s = .ok (a, s')) : Refuses (r >>= f) s := by
  obtain ⟨text, offset, failed⟩ := h
  exact ⟨text, offset, by rw [run_bind_of_ok read, failed]⟩

theorem Reader.Refuses.withTokens {r : Reader α} (h : Refuses r s) : Refuses (withTokens r) s := by
  have unfolded : (Reader.withTokens r).run s = (r >>= fun a => do
      let after := (← get).tokens
      pure (a, s.tokens.take (s.tokens.length - after.length))).run s := rfl
  obtain ⟨text, offset, failed⟩ := h
  exact ⟨text, offset, by rw [unfolded, run_bind_of_error failed]⟩

theorem isPlain_illegal (h : t.kind = .illegal) : t.IsPlain := by
  constructor <;> exact fun kind => by cases h.symm.trans kind

theorem name?_illegal (h : t.kind = .illegal) : t.name? = none := by
  unfold Token.name?
  rw [h]

theorem refuses_name (h : t.kind = .illegal) : Refuses name ⟨t :: ts, n, m⟩ := by
  have fault : faultAt t = .unrecognized t.text t.offset := by
    unfold faultAt
    rw [h]
  refine ⟨t.text, t.offset, ?_⟩
  unfold name
  rw [run_peek_bind, name?_illegal h, ← fault]
  rfl

theorem refuses_tableName (h : t.kind = .illegal) : Refuses tableName ⟨t :: ts, n, m⟩ :=
  (refuses_name ts n m h).bind _

theorem refuses_operand (h : t.kind = .illegal) (fuel : Nat) :
    Refuses (operand (fuel + 1)) ⟨t :: next :: ts, n, m⟩ := by
  have plain := isPlain_illegal h
  have parameter : (t.kind == .parameter) = false := by
    rw [h]
    rfl
  have unwritten : literal? t = .ok none := by
    unfold literal?
    rw [h]
  have times : timeWords.any t.isKeyword = false := by
    simp [timeWords, plain.isKeyword]
  unfold operand Refuses
  rw [run_peek_bind, unwritten, run_ofExcept_bind]
  simp only [parameter, plain.isKeyword, plain.isSymbol, times, run_keyword?_bind,
    run_symbol?_bind, run_peekSecond_bind, Bool.false_eq_true, if_false, Bool.false_and]
  exact (refuses_name (next :: ts) n m h).bind _

theorem refuses_projections (h : t.kind = .illegal) (fuel : Nat) :
    Refuses (projections (fuel + 3)) ⟨t :: next :: ts, n, m⟩ := by
  have value : Refuses (expr 0 (fuel + 2)) ⟨t :: next :: ts, n, m⟩ := by
    unfold expr
    exact (refuses_operand ts n m h fuel).bind _
  -- A value is read here: two tokens further on there may be a star, but no name is in front of it.
  have alone : allOfNext.run ⟨t :: next :: ts, n, m⟩ = .ok (false, ⟨t :: next :: ts, n, m⟩) := by
    cases ts with
    | nil => rfl
    | cons star ts =>
      have unfolded : allOfNext.run ⟨t :: next :: star :: ts, n, m⟩ =
        .ok (t.name?.isSome && next.isSymbol "." && star.isSymbol "*",
          ⟨t :: next :: star :: ts, n, m⟩) := rfl
      rw [unfolded, name?_illegal h]
      rfl
  unfold projections Refuses
  simp only [run_symbol?_bind, (isPlain_illegal h).isSymbol, Bool.false_eq_true, if_false,
    run_bind_of_ok alone]
  exact value.withTokens.bind _

/-! ## Lists that break off -/

/-- The tokens of names with commas behind them, up to what is no token. -/
def brokenOff (names : List String) (text : String) : List (TokenKind × String) :=
  names.flatMap (fun name => [quotedToken name, comma]) ++ [(.illegal, text)]

section Lists

variable {items : List Token} {names : List String} {text : String}

/-- The first of these names stands in front of a comma. -/
theorem exists_of_brokenOff {name : String}
    (h : items.map Token.essence = brokenOff (name :: names) text) :
    ∃ t mark more, items = t :: mark :: more ∧ t.essence = quotedToken name ∧
      mark.essence = comma ∧ more.map Token.essence = brokenOff names text := by
  obtain ⟨t, items, rfl, ht, h⟩ := List.map_eq_cons_iff.mp h
  obtain ⟨mark, more, rfl, hmark, h⟩ := List.map_eq_cons_iff.mp h
  exact ⟨t, mark, more, rfl, ht, hmark, h⟩

/-- Behind the last of them stands what is no token. -/
theorem exists_of_brokenOff_nil (h : items.map Token.essence = brokenOff [] text) :
    ∃ t, items = [t] ∧ t.kind = .illegal := by
  obtain ⟨t, more, rfl, ht, hmore⟩ := List.map_eq_cons_iff.mp h
  exact ⟨t, by rw [List.map_eq_nil_iff.mp hmore], congrArg Prod.fst ht⟩

theorem exists_plain_of_brokenOff
    (h : items.map Token.essence = brokenOff names text) :
    ∃ t more, items = t :: more ∧ t.IsPlain := by
  cases names with
  | nil =>
    obtain ⟨t, rfl, kind⟩ := exists_of_brokenOff_nil h
    exact ⟨t, [], rfl, isPlain_illegal kind⟩
  | cons name names =>
    obtain ⟨t, mark, more, rfl, ht, -, -⟩ := exists_of_brokenOff h
    exact ⟨t, mark :: more, rfl, isPlain_quoted ht⟩

theorem length_lt_of_brokenOff (h : items.map Token.essence = brokenOff names text) :
    names.length < items.length := by
  have size := congrArg List.length h
  simp [brokenOff] at size
  omega

theorem refuses_projections_brokenOff (next : Token) (fuel : Nat)
    (hitems : items.map Token.essence = brokenOff names text)
    (enough : names.length + 3 ≤ fuel) :
    Refuses (projections fuel) ⟨items ++ next :: ts, n, m⟩ := by
  induction names generalizing items fuel with
  | nil =>
    obtain ⟨fuel, rfl⟩ : ∃ k, fuel = k + 3 := ⟨fuel - 3, by simp at enough; omega⟩
    obtain ⟨t, rfl, ht⟩ := exists_of_brokenOff_nil hitems
    exact refuses_projections ts n m ht fuel
  | cons name names ih =>
    obtain ⟨fuel, rfl⟩ : ∃ k, fuel = k + 3 := ⟨fuel - 3, by simp at enough; omega⟩
    obtain ⟨t, mark, more, rfl, ht, hmark, hmore⟩ := exists_of_brokenOff hitems
    obtain ⟨p, -, run⟩ :=
      exists_run_projections_succ (more ++ next :: ts) n m fuel ht (.comma hmark)
    have later := ih (fuel + 2) hmore (by simp at enough ⊢; omega)
    unfold Refuses
    rw [List.cons_append, List.cons_append, run, comma_isSymbol hmark, if_pos rfl]
    exact later.bind _

theorem refuses_separated_name_brokenOff (fuel : Nat)
    (hitems : items.map Token.essence = brokenOff names text) (enough : names.length < fuel) :
    Refuses (separated name fuel) ⟨items ++ ts, n, m⟩ := by
  induction names generalizing items fuel with
  | nil =>
    obtain ⟨fuel, rfl⟩ : ∃ k, fuel = k + 1 := ⟨fuel - 1, by omega⟩
    obtain ⟨t, rfl, ht⟩ := exists_of_brokenOff_nil hitems
    exact (refuses_name ts n m ht).bind _
  | cons first names ih =>
    obtain ⟨fuel, rfl⟩ : ∃ k, fuel = k + 1 := ⟨fuel - 1, by omega⟩
    obtain ⟨t, mark, more, rfl, ht, hmark, hmore⟩ := exists_of_brokenOff hitems
    have later := ih fuel hmore (by simp at enough ⊢; omega)
    unfold separated Refuses
    rw [List.cons_append, List.cons_append, run_name_bind (Token.name?_quoted ht),
      run_symbol?_bind, comma_isSymbol hmark, if_pos rfl]
    simp only [if_true]
    exact later.bind _

end Lists

end Refusal

/-! ## The texts -/

section Texts

variable {columns : List String}

theorem mem_of_not_nulFree {name : String} (h : ¬ NulFree name) : Char.ofNat 0 ∈ name.toList := by
  by_contra none
  exact h fun c hc ends => none (ends ▸ hc)

theorem NulFree.seen_append {a : String} (h : NulFree a) (rest : List Char) :
    Token.seen (a.toList ++ rest) = a.toList ++ Token.seen rest := Token.seen_append h rest

theorem toList_quotedNames_cons (name : String) (names : List String) :
    (quotedNames (name :: names)).toList = (quoteIdent name).toList ++
      if names = [] then [] else ", ".toList ++ (quotedNames names).toList := by
  unfold quotedNames
  split
  case isTrue last =>
    rw [last, List.map_singleton, String.intercalate_singleton, List.append_nil]
  case isFalse more =>
    obtain ⟨second, others, rfl⟩ := List.exists_cons_of_ne_nil more
    rw [List.map_cons, List.map_cons, String.intercalate_cons_cons, String.toList_append,
      String.toList_append, List.append_assoc]

/-- Of a list of names, one of which has a null character, the names before that one are seen, and
the start of it. -/
theorem exists_spells_brokenOff {names : List String} (nul : ∃ name ∈ names, ¬ NulFree name)
    (rest : List Char) :
    ∃ before text, Solid (seen ((quotedNames names).toList ++ rest)) ∧
      Spells (seen ((quotedNames names).toList ++ rest)) (brokenOff before text) := by
  induction names with
  | nil =>
    obtain ⟨_, h, -⟩ := nul
    cases h
  | cons name names ih =>
    rw [toList_quotedNames_cons, List.append_assoc]
    by_cases free : NulFree name
    · have later : ∃ name ∈ names, ¬ NulFree name := by
        obtain ⟨bad, mem, h⟩ := nul
        rcases List.mem_cons.mp mem with rfl | mem
        · exact absurd free h
        · exact ⟨bad, mem, h⟩
      obtain ⟨before, text, solid, spells⟩ := ih later
      have more : names ≠ [] := fun none => by
        obtain ⟨_, mem, -⟩ := later
        exact absurd (none ▸ mem) List.not_mem_nil
      have comma : NulFree ", " := by decide
      rw [if_neg more, List.append_assoc, free.quoteIdent.seen_append, comma.seen_append]
      refine ⟨name :: before, text, (Token.solid_quoteIdent name).append _, ?_⟩
      refine spells_quoteIdent ((spells.space solid).symbol (by decide)) name fun d hd => ?_
      cases hd
      rfl
    · -- Nothing behind this name is seen, whatever the names after it are.
      rw [Token.toList_quoteIdent, Token.seen_quotedChars (mem_of_not_nulFree free)]
      exact ⟨[], _, ⟨'"', _, rfl, by decide⟩, Token.spells_unclosed _⟩

end Texts

/-! ## Statements that break off -/

/-- No statement is read from a text, because of what is no token. -/
def Refused (sql : String) : Prop :=
  ∃ text offset, Parsed.ofText sql = .error (.unrecognized text offset)

section Statements

variable {table : String} {columns : List String} {first t : Token} {ts : List Token}

theorem refused_of_change {sql : String} (cut : Token.ofText sql = first :: ts)
    (word : first.essence.1 = .word) (h : Refuses change? ⟨first :: ts, 0, []⟩) :
    Refused sql := by
  have unmarked : first.isSymbol ";" = false := by
    rw [first.isSymbol_eq, word]
    rfl
  have kind : first.kind = .word := word
  have ended : Refuses endedStatement ⟨first :: ts, 0, []⟩ := (h.bind _).bind _
  obtain ⟨text, offset, failed⟩ := ended
  refine ⟨text, offset, ?_⟩
  unfold Parsed.ofText Parsed.ofTokens
  rw [cut, List.dropWhile_cons_of_neg (by simp [unmarked])]
  simp only [kind]
  rw [failed]
  rfl

theorem refused_of_query {sql : String} (cut : Token.ofText sql = first :: ts)
    (word : first.essence = (.word, "SELECT"))
    (h : Refuses (query (8 * (first :: ts).length + 8)) ⟨first :: ts, 0, []⟩) :
    Refused sql := by
  have select := isKeyword_of_essence word (by decide)
  refine refused_of_change cut (by rw [word]) ?_
  unfold change? Refuses
  rw [run_peek_bind, select, if_pos rfl, run_depth_bind]
  exact h.bind _

/-- A query is refused where its columns or its table are. -/
theorem refuses_query {fuel : Nat} (word : first.essence = (.word, "SELECT")) (plain : t.IsPlain)
    (h : Refuses (projections fuel >>= fun _ => source) ⟨t :: ts, 0, []⟩) :
    Refuses (query (fuel + 1)) ⟨first :: t :: ts, 0, []⟩ := by
  have select := isKeyword_of_essence word (by decide)
  obtain ⟨text, offset, failed⟩ := h
  refine ⟨text, offset, ?_⟩
  unfold query
  simp only [run_keyword_bind select, run_keyword?_bind, plain.isKeyword, Bool.false_eq_true,
    if_false, Bool.not_false, if_true]
  rw [Reader.run_bind] at failed
  cases read : (projections fuel).run ⟨t :: ts, 0, []⟩ with
  | error e =>
    rw [read] at failed
    obtain rfl := Except.error.inj failed
    exact run_bind_of_error read _
  | ok r =>
    rw [read] at failed
    rw [run_bind_of_ok read]
    exact run_bind_of_error failed _

theorem refuses_source {source' : List Token} {text : String}
    (h : source'.map Token.essence = [(.word, "FROM"), (.illegal, text)]) (rest : List Token) :
    Refuses source ⟨source' ++ rest, 0, []⟩ := by
  obtain ⟨first, more, rfl, hfirst, hmore⟩ := List.map_eq_cons_iff.mp h
  obtain ⟨t, rfl, kind⟩ := exists_of_brokenOff_nil hmore
  have word := isKeyword_of_essence hfirst (by decide)
  unfold source Refuses
  rw [List.cons_append, List.singleton_append, run_keyword?_bind, word, if_pos rfl]
  simp only [if_true]
  exact (refuses_tableName rest 0 [] kind).bind _

/-- A query breaks off in its columns. -/
theorem refuses_query_columns {items : List Token} {names : List String} {text : String}
    (word : first.essence = (.word, "SELECT"))
    (hitems : items.map Token.essence = brokenOff names text) (fuel : Nat)
    (enough : names.length + 4 ≤ fuel) :
    Refuses (query fuel) ⟨first :: (items ++ next :: ts), 0, []⟩ := by
  obtain ⟨fuel, rfl⟩ : ∃ k, fuel = k + 1 := ⟨fuel - 1, by omega⟩
  have refuses := refuses_projections_brokenOff ts 0 [] next fuel hitems (by omega)
  obtain ⟨t, more, rfl, plain⟩ := exists_plain_of_brokenOff hitems
  exact refuses_query word plain (refuses.bind _)

/-- A query breaks off in the name of its table. -/
theorem refuses_query_table {items source' : List Token} {text : String} (nonempty : columns ≠ [])
    (word : first.essence = (.word, "SELECT"))
    (hitems : items.map Token.essence = (columns.map quotedToken).intersperse comma)
    (hsource : source'.map Token.essence = [(.word, "FROM"), (.illegal, text)]) (fuel : Nat)
    (enough : columns.length + 3 ≤ fuel) :
    Refuses (query fuel) ⟨first :: (items ++ (source' ++ ts)), 0, []⟩ := by
  obtain ⟨fuel, rfl⟩ : ∃ k, fuel = k + 1 := ⟨fuel - 1, by omega⟩
  have refuses := refuses_source hsource ts
  obtain ⟨from', more, rfl, hfrom, -⟩ := List.map_eq_cons_iff.mp hsource
  obtain ⟨ps, read, -⟩ := exists_run_projections (more ++ ts) 0 [] fuel nonempty hitems hfrom
    (by omega)
  have both : Refuses (projections fuel >>= fun _ => source)
      ⟨items ++ (from' :: more ++ ts), 0, []⟩ := refuses.behind (f := fun _ => source) read
  obtain ⟨t, more', rfl, plain⟩ := exists_plain nonempty hitems
  exact refuses_query word plain both

theorem exists_spells_unclosed (nul : ¬ NulFree table) (rest : List Char) :
    ∃ text, Solid (seen ((quoteIdent table).toList ++ rest)) ∧
      Spells (seen ((quoteIdent table).toList ++ rest)) [(.illegal, text)] := by
  rw [Token.toList_quoteIdent, Token.seen_quotedChars (mem_of_not_nulFree nul)]
  exact ⟨_, ⟨'"', _, rfl, by decide⟩, Token.spells_unclosed _⟩

/-- **A query for a name with a null character is refused.** -/
theorem refused_selectSql (nonempty : columns ≠ [])
    (nul : ∃ name ∈ table :: columns, ¬ NulFree name) : Refused (selectSql table columns) := by
  have select : NulFree "SELECT " := by decide
  have from' : NulFree " FROM " := by decide
  -- The columns come first: what is wrong with the table is met only if they are read to their end.
  by_cases inside : ∃ name ∈ columns, ¬ NulFree name
  · obtain ⟨before, text, solid, spells⟩ := exists_spells_brokenOff inside
      (" FROM ".toList ++ (quoteIdent table).toList)
    have spelled := spells_select spells solid
    rw [← select.seen_append, ← toList_selectSql] at spelled
    obtain ⟨ts, finish, cut, h⟩ := Token.exists_ofText spelled
    obtain ⟨first, items, rfl, word, hitems⟩ := List.map_eq_cons_iff.mp h
    have long := length_lt_of_brokenOff hitems
    rw [List.cons_append] at cut
    exact refused_of_query cut word (refuses_query_columns word hitems _ (by
      simp only [List.length_cons, List.length_append]
      omega))
  · have free : ∀ column ∈ columns, NulFree column := fun column hc => by
      by_contra bad
      exact inside ⟨column, hc, bad⟩
    have bad : ¬ NulFree table := by
      obtain ⟨name, mem, bad⟩ := nul
      rcases List.mem_cons.mp mem with rfl | mem
      · exact bad
      · exact absurd (free name mem) bad
    obtain ⟨text, solid, spells⟩ := exists_spells_unclosed bad []
    have spelled := spells_select
      (spells_quotedNames nonempty (spells_from spells solid) fun d hd => by cases hd; rfl)
      ((solid_quotedNames nonempty).append _)
    rw [List.append_nil, ← from'.seen_append, ← (nulFree_quotedNames free).seen_append,
      ← select.seen_append, ← toList_selectSql] at spelled
    obtain ⟨ts, finish, cut, h⟩ := Token.exists_ofText spelled
    obtain ⟨first, ts, rfl, word, h⟩ := List.map_eq_cons_iff.mp h
    obtain ⟨items, source', rfl, hitems, hsource⟩ := List.map_eq_append_iff.mp h
    have long := congrArg List.length hitems
    simp only [List.length_map, List.length_intersperse] at long
    rw [List.cons_append, List.append_assoc] at cut
    exact refused_of_query cut word (refuses_query_table nonempty word hitems hsource _ (by
      simp only [List.length_cons, List.length_append]
      omega))

/-! ### The insertion -/

theorem refused_of_insertion {sql : String} {insert or ignore : Token}
    (cut : Token.ofText sql = insert :: or :: ignore :: ts)
    (hinsert : insert.essence = (.word, "INSERT")) (hor : or.essence = (.word, "OR"))
    (hignore : ignore.essence = (.word, "IGNORE"))
    (h : Refuses (insertion (some .ignore)) ⟨ts, 0, []⟩) : Refused sql := by
  refine refused_of_change cut (by rw [hinsert]) ?_
  unfold Refuses
  rw [run_change_ignoring hinsert hor hignore]
  exact h.bind _

/-- An insertion breaks off in the name of its table. -/
theorem refuses_insertion_table {into : Token} {target : List Token} {text : String}
    (hinto : into.essence = (.word, "INTO"))
    (htarget : target.map Token.essence = brokenOff [] text) :
    Refuses (insertion (some .ignore)) ⟨into :: (target ++ ts), 0, []⟩ := by
  obtain ⟨t, rfl, kind⟩ := exists_of_brokenOff_nil htarget
  unfold insertion Refuses
  rw [run_keyword_bind (isKeyword_of_essence hinto (by decide))]
  exact (refuses_tableName ts 0 [] kind).bind _

theorem refuses_bracketedNames (ts : List Token) {left : Token} {items : List Token}
    {names : List String} {text : String} (hleft : left.essence = (.symbol, "("))
    (hitems : items.map Token.essence = brokenOff names text) :
    Refuses bracketedNames ⟨left :: (items ++ ts), 0, []⟩ := by
  have long := length_lt_of_brokenOff hitems
  have enough : names.length < 8 * (items ++ ts).length + 8 := by
    rw [List.length_append]
    omega
  unfold bracketedNames Refuses
  rw [run_symbol_bind (isSymbol_of_essence hleft), run_depth_bind]
  exact (refuses_separated_name_brokenOff ts 0 [] _ hitems enough).bind _

/-- An insertion breaks off in its columns. -/
theorem refuses_insertion_columns {into target left : Token} {items : List Token}
    {names : List String} {text : String} (hinto : into.essence = (.word, "INTO"))
    (htarget : target.essence = quotedToken table) (hleft : left.essence = (.symbol, "("))
    (hitems : items.map Token.essence = brokenOff names text) :
    Refuses (insertion (some .ignore)) ⟨into :: target :: left :: (items ++ ts), 0, []⟩ := by
  unfold insertion Refuses
  rw [run_keyword_bind (isKeyword_of_essence hinto (by decide)),
    run_bind_of_ok (run_tableName htarget (not_isSymbol hleft (by decide)))]
  simp only [run_peek_bind, isSymbol_of_essence hleft, if_true]
  exact (refuses_bracketedNames ts hleft hitems).bind _

/-- **An insertion under a name with a null character is refused.** -/
theorem refused_insertSql (nul : ∃ name ∈ table :: columns, ¬ NulFree name) :
    Refused (insertSql table columns) := by
  have insertInto : NulFree "INSERT OR IGNORE INTO " := by decide
  have bracket : NulFree " (" := by decide
  by_cases free : NulFree table
  · have inside : ∃ name ∈ columns, ¬ NulFree name := by
      obtain ⟨name, mem, bad⟩ := nul
      rcases List.mem_cons.mp mem with rfl | mem
      · exact absurd free bad
      · exact ⟨name, mem, bad⟩
    obtain ⟨before, text, -, spells⟩ := exists_spells_brokenOff inside
      (") VALUES (".toList ++ ((", ".intercalate (columns.map fun _ => "?")).toList ++ ")".toList))
    have target := spells_quoteIdent (spells_bracket spells) table fun d hd => by
      cases hd
      rfl
    have spelled := spells_insertInto target ((Token.solid_quoteIdent table).append _)
    rw [← bracket.seen_append, ← free.quoteIdent.seen_append, ← insertInto.seen_append,
      ← toList_insertSql] at spelled
    obtain ⟨ts, finish, cut, h⟩ := Token.exists_ofText spelled
    obtain ⟨insert, ts, rfl, hinsert, h⟩ := List.map_eq_cons_iff.mp h
    obtain ⟨or, ts, rfl, hor, h⟩ := List.map_eq_cons_iff.mp h
    obtain ⟨ignore, ts, rfl, hignore, h⟩ := List.map_eq_cons_iff.mp h
    obtain ⟨into, ts, rfl, hinto, h⟩ := List.map_eq_cons_iff.mp h
    obtain ⟨target, ts, rfl, htarget, h⟩ := List.map_eq_cons_iff.mp h
    obtain ⟨left, items, rfl, hleft, hitems⟩ := List.map_eq_cons_iff.mp h
    simp only [List.cons_append] at cut
    exact refused_of_insertion cut hinsert hor hignore
      (refuses_insertion_columns hinto htarget hleft hitems)
  · obtain ⟨text, solid, spells⟩ := exists_spells_unclosed free
      (" (".toList ++ ((quotedNames columns).toList ++ (") VALUES (".toList ++
        ((", ".intercalate (columns.map fun _ => "?")).toList ++ ")".toList))))
    have spelled := spells_insertInto spells solid
    rw [← insertInto.seen_append, ← toList_insertSql] at spelled
    obtain ⟨ts, finish, cut, h⟩ := Token.exists_ofText spelled
    obtain ⟨insert, ts, rfl, hinsert, h⟩ := List.map_eq_cons_iff.mp h
    obtain ⟨or, ts, rfl, hor, h⟩ := List.map_eq_cons_iff.mp h
    obtain ⟨ignore, ts, rfl, hignore, h⟩ := List.map_eq_cons_iff.mp h
    obtain ⟨into, target, rfl, hinto, htarget⟩ := List.map_eq_cons_iff.mp h
    simp only [List.cons_append] at cut
    exact refused_of_insertion cut hinsert hor hignore (refuses_insertion_table hinto htarget)

end Statements

end FilterStore.Sql

namespace FilterStore

open Engine (Table)
open Replay (insertSql selectSql)
open Sql (Column NulFree Parsed Refers Refused Shows rowInsertion rowQuery)
open Text (quoteIdent readQuoted)

/-! ## What is named -/

/-- **A quoted name ends itself**: a doubled quote stands for one, a single quote ends the name, and
what follows is left as it was. -/
theorem Text.readQuoted_quoteIdent (name : String) {rest : List Char}
    (stops : rest.head? ≠ some '"') :
    readQuoted ((quoteIdent name).toList ++ rest) = some (name.toList, rest) := by
  rw [Sql.Token.toList_quoteIdent]
  refine Sql.Token.readQuoted_quotedChars (fun c hc => ?_) name.toList
  exact beq_false_of_ne fun quote => stops (quote ▸ hc)

/-- The statements that read and insert the rows of a table name this table, these columns in their
order, and nothing else: the first is read as the query for the columns of the table, the second as
the insertion of a row into them, with the parameters in turn. -/
structure NamesExactly (table : String) (columns : List String) : Prop where
  selects : ∃ ps, Parsed.ofText (selectSql table columns) =
      .ok (some ⟨.change (.select (rowQuery table ps)), 0, ""⟩) ∧ List.Forall₂ Shows columns ps
  inserts : ∃ es, Parsed.ofText (insertSql table columns) =
      .ok (some ⟨.change (rowInsertion table columns es), columns.length, ""⟩) ∧
    List.Forall₂ Refers (List.range' 1 columns.length) es

section Naming

variable {table : String} {columns : List String}

theorem namesExactly_of_nulFree (nonempty : columns ≠ [])
    (free : ∀ name ∈ table :: columns, NulFree name) : NamesExactly table columns := by
  obtain ⟨named, all⟩ := List.forall_mem_cons.mp free
  exact ⟨Sql.exists_parsed_selectSql table columns nonempty named all,
    Sql.exists_parsed_insertSql table columns nonempty named all⟩

theorem NamesExactly.nulFree (h : NamesExactly table columns) :
    ∀ name ∈ table :: columns, NulFree name := by
  intro name mem
  by_contra bad
  -- The insertion, since it is refused without any columns as well.
  obtain ⟨_, read, -⟩ := h.inserts
  obtain ⟨_, _, refused⟩ := Sql.refused_insertSql ⟨name, mem, bad⟩
  cases read.symm.trans refused

/-- What a dump reads the rows of a table with names the table and its columns. -/
theorem Engine.Table.Proper.namesExactly {t : Table} (h : t.Proper) :
    NamesExactly t.name (t.columns.map Column.name) := by
  refine namesExactly_of_nulFree (by simpa using h.nonempty) (List.forall_mem_cons.mpr ⟨h.name, ?_⟩)
  exact List.forall_mem_map.mpr h.columnNames

/-- Recorded columns that pass the check are named, and so the statement that rows are inserted by
names what it should if the table has such a name. -/
theorem namesExactly_iff_of_checkColumns {recorded live : List String} {rows : List (List Json)}
    (accepted : checkColumns table recorded live rows = .ok ())
    (free : ∀ column ∈ live, NulFree column) :
    NamesExactly table recorded ↔ NulFree table := by
  obtain ⟨there, length, known, -⟩ := checkColumns_eq_ok_iff.mp accepted
  have nonempty : recorded ≠ [] := by
    rintro rfl
    exact there (List.length_eq_zero_iff.mp length.symm)
  have named : ∀ column ∈ recorded, NulFree column := fun column hc => by
    obtain ⟨l, hl, same⟩ := known column hc
    exact (free l hl).of_lower (Text.sameName_iff.mp same).symm
  constructor
  · exact fun h => h.nulFree table List.mem_cons_self
  · exact fun h => namesExactly_of_nulFree nonempty (List.forall_mem_cons.mpr ⟨h, named⟩)

/-- **Every quoted name ends itself; and statements on rows name exactly the table and the columns
they were written for, unless there is a null character in one of the names.  Then they are
refused, and name nothing.** -/
theorem namesExactly_iff (table : String) (columns : List String) (nonempty : columns ≠ []) :
    (∀ (name : String) (rest : List Char), rest.head? ≠ some '"' →
      readQuoted ((quoteIdent name).toList ++ rest) = some (name.toList, rest)) ∧
    (NamesExactly table columns ↔ ∀ name ∈ table :: columns, NulFree name) ∧
    ((∃ name ∈ table :: columns, ¬ NulFree name) →
      Refused (selectSql table columns) ∧ Refused (insertSql table columns)) := by
  refine ⟨fun name rest stops => Text.readQuoted_quoteIdent name stops, ?_, fun nul => ?_⟩
  · exact ⟨NamesExactly.nulFree, namesExactly_of_nulFree nonempty⟩
  · exact ⟨Sql.refused_selectSql nonempty nul, Sql.refused_insertSql nul⟩

end Naming

/-- Names full of quotes, commas and ends of statements are named as they are. -/
theorem namesExactly_quoted :
    ["\"", "a\", \"b", "\") --"] ≠ [] ∧ ", \"b\"".toList.head? ≠ some '"' ∧
      readQuoted ((quoteIdent "\"a\"\"").toList ++ ", \"b\"".toList) =
        some ("\"a\"\"".toList, ", \"b\"".toList) ∧
      NamesExactly "say \"hi\"; --" ["\"", "a\", \"b", "\") --"] ∧
      (∃ name ∈ ["leaf\x00let", "line"], ¬ NulFree name) ∧
      Refused (insertSql "leaf\x00let" ["line"]) := by
  have nonempty : ["\"", "a\", \"b", "\") --"] ≠ [] := List.cons_ne_nil _ _
  have stops : ", \"b\"".toList.head? ≠ some '"' := by decide
  have nul : ∃ name ∈ ["leaf\x00let", "line"], ¬ NulFree name :=
    ⟨"leaf\x00let", List.mem_cons_self, by decide⟩
  have all := namesExactly_iff "say \"hi\"; --" _ nonempty
  refine ⟨nonempty, stops, all.1 _ _ stops, all.2.1.mpr (by decide), nul, ?_⟩
  exact ((namesExactly_iff "leaf\x00let" ["line"] (List.cons_ne_nil _ _)).2.2 nul).2

/-- A dump with a table of leaves, and a line for a table whose name goes on behind a null
character. -/
def leaflet : Document where
  sql := ⟨["CREATE TABLE leaf (line TEXT)"], [], [], []⟩
  tables := [("leaf\x00let", ["line"])]
  data := [("leaf\x00let", [[.string "dry"]])]
  errors := []

/-- The line is checked against the columns of the leaves, and then there is no statement to insert
it by. -/
theorem not_namesExactly_leaflet :
    (leaflet.restore.run (.ofDatabase .empty .epoch)).1.toOption.map Document.errors =
      some [("leaf\x00let", "engine error: unrecognized token: \"\"leaf\" in " ++
        insertSql "leaf\x00let" ["line"] ++ " at offset 22 (while executing: " ++
        insertSql "leaf\x00let" ["line"] ++ ")")] ∧
      ¬ NamesExactly "leaf\x00let" ["line"] :=
  ⟨by decide +kernel, fun names => absurd (names.nulFree _ List.mem_cons_self) (by decide)⟩

end FilterStore
