import FilterStore.Proofs.Sql.Cut
import FilterStore.Sql.StatementReader
import Mathlib.Data.List.Forall2

/-!
# Reading lists of names and of parameters

A reader looks at what the next tokens are, and at where they stand only to report it.  So what it
reads is said for all tokens of certain kinds and texts.  Names between quotes are columns where a
value is read, and question marks are the parameters in turn; a comma, a bracket or the word `FROM`
ends a value.  From one item the lists of items follow, by induction on the list.
-/

namespace FilterStore.Sql

open Text (quoteIdent)

namespace Reader

variable {α β : Type}

theorem run_bind (r : Reader α) (f : α → Reader β) (s : Remainder) :
    (r >>= f).run s = match r.run s with
      | .ok (a, s) => (f a).run s
      | .error e => .error e := by
  have unfolded : (r >>= f).run s = (r.run s >>= fun p => (f p.1).run p.2) := rfl
  rw [unfolded]
  rcases r.run s with _ | ⟨_, _⟩ <;> rfl

theorem run_bind_of_ok {r : Reader α} {s s' : Remainder} {a : α} (h : r.run s = .ok (a, s'))
    (f : α → Reader β) : (r >>= f).run s = (f a).run s' := by
  rw [run_bind, h]

theorem run_pure (a : α) (s : Remainder) : (pure a : Reader α).run s = .ok (a, s) := rfl

section Primitives

variable {t : Token} {ts : List Token} {n : Nat} {m : List (String × Nat)}

theorem run_peek_bind (f : Token → Reader α) :
    (peek >>= f).run ⟨t :: ts, n, m⟩ = (f t).run ⟨t :: ts, n, m⟩ := rfl

theorem run_peekSecond_bind {t' : Token} (f : Token → Reader α) :
    (peekSecond >>= f).run ⟨t :: t' :: ts, n, m⟩ = (f t').run ⟨t :: t' :: ts, n, m⟩ := rfl

theorem run_advance_bind (f : Unit → Reader α) :
    (advance >>= f).run ⟨t :: ts, n, m⟩ = (f ()).run ⟨ts, n, m⟩ := rfl

theorem run_depth_bind (f : Nat → Reader α) :
    (depth >>= f).run ⟨ts, n, m⟩ = (f (8 * ts.length + 8)).run ⟨ts, n, m⟩ := rfl

theorem run_keyword?_bind (w : String) (f : Bool → Reader α) :
    (keyword? w >>= f).run ⟨t :: ts, n, m⟩ =
      if t.isKeyword w then (f true).run ⟨ts, n, m⟩ else (f false).run ⟨t :: ts, n, m⟩ := by
  have run : (keyword? w).run ⟨t :: ts, n, m⟩ =
      if t.isKeyword w then .ok (true, ⟨ts, n, m⟩) else .ok (false, ⟨t :: ts, n, m⟩) := by
    unfold keyword?
    rw [run_peek_bind]
    split <;> rfl
  rw [run_bind, run]
  cases t.isKeyword w <;> rfl

theorem run_symbol?_bind (w : String) (f : Bool → Reader α) :
    (symbol? w >>= f).run ⟨t :: ts, n, m⟩ =
      if t.isSymbol w then (f true).run ⟨ts, n, m⟩ else (f false).run ⟨t :: ts, n, m⟩ := by
  have run : (symbol? w).run ⟨t :: ts, n, m⟩ =
      if t.isSymbol w then .ok (true, ⟨ts, n, m⟩) else .ok (false, ⟨t :: ts, n, m⟩) := by
    unfold symbol?
    rw [run_peek_bind]
    split <;> rfl
  rw [run_bind, run]
  cases t.isSymbol w <;> rfl

theorem run_keyword_bind {w : String} (h : t.isKeyword w = true) (f : Unit → Reader α) :
    (keyword w >>= f).run ⟨t :: ts, n, m⟩ = (f ()).run ⟨ts, n, m⟩ := by
  have run : (keyword w).run ⟨t :: ts, n, m⟩ = .ok ((), ⟨ts, n, m⟩) := by
    unfold keyword
    rw [run_keyword?_bind, h]
    rfl
  rw [run_bind, run]

theorem run_symbol_bind {w : String} (h : t.isSymbol w = true) (f : Unit → Reader α) :
    (symbol w >>= f).run ⟨t :: ts, n, m⟩ = (f ()).run ⟨ts, n, m⟩ := by
  have run : (symbol w).run ⟨t :: ts, n, m⟩ = .ok ((), ⟨ts, n, m⟩) := by
    unfold symbol
    rw [run_symbol?_bind, h]
    rfl
  rw [run_bind, run]

theorem run_name_bind {a : String} (h : t.name? = some a) (f : String → Reader α) :
    (name >>= f).run ⟨t :: ts, n, m⟩ = (f a).run ⟨ts, n, m⟩ := by
  have run : name.run ⟨t :: ts, n, m⟩ = .ok (a, ⟨ts, n, m⟩) := by
    unfold name
    rw [run_peek_bind, h]
    rfl
  rw [run_bind, run]

theorem run_withTokens_bind {r : Reader α} {s s' : Remainder} {a : α} (h : r.run s = .ok (a, s'))
    (f : α × List Token → Reader β) :
    (withTokens r >>= f).run s =
      (f (a, s.tokens.take (s.tokens.length - s'.tokens.length))).run s' := by
  have run : (withTokens r).run s =
      .ok ((a, s.tokens.take (s.tokens.length - s'.tokens.length)), s') := by
    have unfolded : (withTokens r).run s = (r >>= fun a => do
        let after := (← get).tokens
        pure (a, s.tokens.take (s.tokens.length - after.length))).run s := rfl
    rw [unfolded, run_bind_of_ok h]
    rfl
  exact run_bind_of_ok run f

end Primitives

end Reader

open Reader

/-! ## Tokens by their kind and text -/

theorem Token.isKeyword_eq (t : Token) (w : String) :
    t.isKeyword w = (t.essence.1 == .word && Text.upper t.essence.2 == w) := rfl

theorem Token.isSymbol_eq (t : Token) (w : String) :
    t.isSymbol w = (t.essence.1 == .symbol && t.essence.2 == w) := rfl

/-- A token that is neither a word nor a symbol. -/
structure Token.IsPlain (t : Token) : Prop where
  word : t.essence.1 ≠ .word
  symbol : t.essence.1 ≠ .symbol

section Plain

variable {t : Token}

theorem Token.IsPlain.isKeyword (h : t.IsPlain) (w : String) : t.isKeyword w = false := by
  rw [t.isKeyword_eq, beq_false_of_ne h.word, Bool.false_and]

theorem Token.IsPlain.isSymbol (h : t.IsPlain) (w : String) : t.isSymbol w = false := by
  rw [t.isSymbol_eq, beq_false_of_ne h.symbol, Bool.false_and]

end Plain

/-- A comma. -/
def comma : TokenKind × String := (.symbol, ",")

/-- A name between quotes. -/
def quotedToken (name : String) : TokenKind × String := (.quotedName, quoteIdent name)

/-- A question mark. -/
def questionMark : TokenKind × String := (.parameter, "?")

theorem isPlain_quoted {t : Token} {name : String} (h : t.essence = quotedToken name) :
    t.IsPlain := by
  constructor <;> rw [h] <;> exact fun kinds => by cases kinds

theorem isPlain_questionMark {t : Token} (h : t.essence = questionMark) : t.IsPlain := by
  constructor <;> rw [h] <;> exact fun kinds => by cases kinds

/-- A token that ends a value. -/
inductive Token.Closes (t : Token) : Prop
  | comma (h : t.essence = comma)
  | bracket (h : t.essence = (.symbol, ")"))
  | source (h : t.essence = (.word, "FROM"))

namespace Token.Closes

variable {t : Token}

theorem isKeyword (h : t.Closes) {w : String} (hw : "FROM" ≠ w) : t.isKeyword w = false := by
  rw [t.isKeyword_eq]
  cases h with
  | comma h | bracket h =>
    rw [h]
    rfl
  | source h =>
    have upper : Text.upper "FROM" = "FROM" := by decide
    rw [h]
    simp only [upper, beq_self_eq_true, Bool.true_and, beq_eq_false_iff_ne]
    exact hw

theorem isSymbol (h : t.Closes) {w : String} (comma : "," ≠ w) (bracket : ")" ≠ w) :
    t.isSymbol w = false := by
  rw [t.isSymbol_eq]
  cases h with
  | comma h => rw [h, Sql.comma, beq_false_of_ne comma, Bool.and_false]
  | bracket h => rw [h, beq_false_of_ne bracket, Bool.and_false]
  | source h =>
    rw [h]
    rfl

theorem name?_eq_none (h : t.Closes) : t.name? = none := by
  have reserved : Token.reserved.contains (Text.upper "FROM") = true := by decide
  obtain ⟨kind, blank, text, offset⟩ := t
  cases h with
  | comma h =>
    obtain ⟨rfl, rfl⟩ := Prod.mk.inj h
    rfl
  | bracket h =>
    obtain ⟨rfl, rfl⟩ := Prod.mk.inj h
    rfl
  | source h =>
    obtain ⟨rfl, rfl⟩ := Prod.mk.inj h
    simp only [Token.name?, reserved, if_true]

theorem binaryOp?_eq_none (h : t.Closes) : binaryOp? t = none := by
  have or := h.isKeyword (w := "OR") (by decide)
  have and := h.isKeyword (w := "AND") (by decide)
  obtain ⟨kind, blank, text, offset⟩ := t
  cases h with
  | comma h =>
    obtain ⟨rfl, rfl⟩ := Prod.mk.inj h
    rfl
  | bracket h =>
    obtain ⟨rfl, rfl⟩ := Prod.mk.inj h
    rfl
  | source h =>
    obtain ⟨rfl, rfl⟩ := Prod.mk.inj h
    simp only [binaryOp?, or, and, if_false, Bool.false_eq_true]

end Token.Closes

/-! ## Values -/

section Values

variable {t next : Token} (ts : List Token) (n : Nat) (m : List (String × Nat))

/-- No operator follows a value that is ended. -/
theorem run_operators (left : Expr) (fuel : Nat) (h : t.Closes) :
    (operators 0 left (fuel + 1)).run ⟨t :: ts, n, m⟩ = .ok (left, ⟨t :: ts, n, m⟩) := by
  have no : ∀ w, "FROM" ≠ w → t.isKeyword w = false := fun w => h.isKeyword
  have tests : testWords.any t.isKeyword = false := by
    simp [testWords, no]
  unfold operators
  rw [run_peek_bind, h.binaryOp?_eq_none]
  simp only [run_keyword?_bind, no, tests, ne_eq, String.reduceEq, not_false_eq_true,
    Bool.and_false, Bool.false_eq_true, if_false, equalityLevel, Nat.not_lt_zero]
  rfl

theorem run_ofExcept_bind {α β : Type} (a : α) (f : α → Reader β) (s : Remainder) :
    ((ofExcept (.ok a) : Reader α) >>= f).run s = (f a).run s := rfl

theorem run_operand_quoted (fuel : Nat) {name : String} (ht : t.essence = quotedToken name)
    (hn : next.Closes) :
    (operand (fuel + 1)).run ⟨t :: next :: ts, n, m⟩ =
      .ok (.column ⟨none, name, true, t.offset⟩, ⟨next :: ts, n, m⟩) := by
  have plain := isPlain_quoted ht
  have kind : t.kind = .quotedName := congrArg Prod.fst ht
  have quoted : (t.kind == .quotedName) = true := by
    rw [kind]
    rfl
  have parameter : (t.kind == .parameter) = false := by
    rw [kind]
    rfl
  have unwritten : literal? t = .ok none := by
    unfold literal?
    rw [kind]
  have times : timeWords.any t.isKeyword = false := by
    simp [timeWords, plain.isKeyword]
  have opened : (t.text.toList.head? == some '"') = true := by
    have text : t.text = quoteIdent name := congrArg Prod.snd ht
    rw [text, Token.toList_quoteIdent]
    rfl
  have call : next.isSymbol "(" = false := hn.isSymbol (by decide) (by decide)
  have dot : next.isSymbol "." = false := hn.isSymbol (by decide) (by decide)
  unfold operand
  rw [run_peek_bind, unwritten, run_ofExcept_bind]
  simp only [parameter, plain.isKeyword, plain.isSymbol, times, call, dot, run_keyword?_bind,
    run_symbol?_bind, run_peekSecond_bind, run_name_bind (Token.name?_quoted ht), columnName,
    quoted, opened, Bool.false_eq_true, if_false, Bool.false_and, Bool.and_self]
  rfl

/-- A question mark is the next parameter. -/
theorem run_operand_questionMark (fuel : Nat) (ht : t.essence = questionMark) :
    (operand (fuel + 1)).run ⟨t :: ts, n, m⟩ =
      .ok (.parameter (n + 1) t.offset, ⟨ts, n + 1, m⟩) := by
  have kind : t.kind = .parameter := congrArg Prod.fst ht
  have parameter : (t.kind == .parameter) = true := by
    rw [kind]
    rfl
  have unwritten : literal? t = .ok none := by
    unfold literal?
    rw [kind]
  have text : t.text.toList = ['?'] := by
    have text : t.text = "?" := congrArg Prod.snd ht
    rw [text]
    rfl
  have greatest : max n (n + 1) = n + 1 := Nat.max_eq_right (Nat.le_succ n)
  have numbered : (Sql.parameter t).run ⟨ts, n, m⟩ =
      .ok (.parameter (n + 1) t.offset, ⟨ts, max n (n + 1), m⟩) := by
    rw [Sql.parameter, text]
    rfl
  unfold operand
  rw [run_peek_bind, unwritten, run_ofExcept_bind]
  simp only [parameter, if_true, run_advance_bind, numbered, greatest]

theorem run_expr_quoted (fuel : Nat) {name : String} (ht : t.essence = quotedToken name)
    (hn : next.Closes) :
    (expr 0 (fuel + 2)).run ⟨t :: next :: ts, n, m⟩ =
      .ok (.column ⟨none, name, true, t.offset⟩, ⟨next :: ts, n, m⟩) := by
  unfold expr
  rw [run_bind_of_ok (run_operand_quoted ts n m fuel ht hn), run_operators ts n m _ fuel hn]

theorem run_expr_questionMark (fuel : Nat) (ht : t.essence = questionMark) (hn : next.Closes) :
    (expr 0 (fuel + 2)).run ⟨t :: next :: ts, n, m⟩ =
      .ok (.parameter (n + 1) t.offset, ⟨next :: ts, n + 1, m⟩) := by
  unfold expr
  rw [run_bind_of_ok (run_operand_questionMark _ n m fuel ht), run_operators ts _ m _ fuel hn]

end Values

/-! ## Lists -/

theorem comma_isSymbol {t : Token} (h : t.essence = comma) : t.isSymbol "," = true := by
  rw [t.isSymbol_eq, h]
  rfl

theorem not_isSymbol {t : Token} {e : TokenKind × String} (h : t.essence = e) {w : String}
    (other : (e.1 == .symbol && e.2 == w) = false) : t.isSymbol w = false := by
  rw [t.isSymbol_eq, h, other]

theorem exists_of_singleton {items : List Token} {x : TokenKind × String}
    (h : items.map Token.essence = [x].intersperse comma) :
    ∃ t, items = [t] ∧ t.essence = x := by
  obtain ⟨t, more, rfl, ht, hmore⟩ := List.map_eq_cons_iff.mp h
  exact ⟨t, by rw [List.map_eq_nil_iff.mp hmore], ht⟩

/-- Of several items with commas between them, the first one stands in front of a comma. -/
theorem exists_of_intersperse {items : List Token} {x y : TokenKind × String}
    {rest : List (TokenKind × String)}
    (h : items.map Token.essence = (x :: y :: rest).intersperse comma) :
    ∃ t mark more, items = t :: mark :: more ∧ t.essence = x ∧ mark.essence = comma ∧
      more.map Token.essence = (y :: rest).intersperse comma := by
  rw [List.intersperse_cons_cons] at h
  obtain ⟨t, items, rfl, ht, h⟩ := List.map_eq_cons_iff.mp h
  obtain ⟨mark, more, rfl, hmark, h⟩ := List.map_eq_cons_iff.mp h
  exact ⟨t, mark, more, rfl, ht, hmark, h⟩

/-- A column of a name as it is selected. -/
def Shows (name : String) (p : Projection) : Prop :=
  ∃ offset heading, p = .value (.column ⟨none, name, true, offset⟩) heading false

/-- A parameter of a number. -/
def Refers (index : Nat) (e : Expr) : Prop := ∃ offset, e = .parameter index offset

section Lists

variable {t next : Token} {items : List Token} {names : List String} (ts : List Token) (n : Nat)
  (m : List (String × Nat))

theorem exists_run_projections_succ (fuel : Nat) {name : String}
    (ht : t.essence = quotedToken name) (hn : next.Closes) :
    ∃ p, Shows name p ∧ (projections (fuel + 3)).run ⟨t :: next :: ts, n, m⟩ =
      if next.isSymbol "," then
        (do let rest ← projections (fuel + 2); pure (p :: rest) : Reader _).run ⟨ts, n, m⟩
      else .ok ([p], ⟨next :: ts, n, m⟩) := by
  have plain := isPlain_quoted ht
  have alone : allOfNext.run ⟨t :: next :: ts, n, m⟩ = .ok (false, ⟨t :: next :: ts, n, m⟩) := by
    have dot : next.isSymbol "." = false := hn.isSymbol (by decide) (by decide)
    cases ts with
    | nil => rfl
    | cons star ts =>
      have unfolded : allOfNext.run ⟨t :: next :: star :: ts, n, m⟩ =
        .ok (t.name?.isSome && next.isSymbol "." && star.isSymbol "*",
          ⟨t :: next :: star :: ts, n, m⟩) := rfl
      rw [unfolded, dot, Bool.and_false, Bool.false_and]
  have ungiven : givenName?.run ⟨next :: ts, n, m⟩ = .ok (none, ⟨next :: ts, n, m⟩) := by
    unfold givenName?
    simp only [run_keyword?_bind, hn.isKeyword (w := "AS") (by decide), Bool.false_eq_true,
      if_false, run_peek_bind, hn.name?_eq_none]
    rfl
  refine ⟨_, ⟨t.offset, Token.spanned [t] next, rfl⟩, ?_⟩
  have read := run_expr_quoted ts n m fuel ht hn
  have token : (t :: next :: ts).take ((t :: next :: ts).length - (next :: ts).length) = [t] := by
    simp
  conv => lhs; unfold projections
  simp only [run_symbol?_bind, plain.isSymbol, Bool.false_eq_true, if_false, run_bind_of_ok alone,
    run_withTokens_bind read, run_peek_bind, run_bind_of_ok ungiven, token, Option.getD_none,
    Option.isSome_none, pure_bind]
  rfl

/-- Names with commas between them in front of `FROM` are the columns that are selected. -/
theorem exists_run_projections (fuel : Nat) (nonempty : names ≠ [])
    (hitems : items.map Token.essence = (names.map quotedToken).intersperse comma)
    (hn : next.essence = (.word, "FROM")) (enough : names.length + 2 ≤ fuel) :
    ∃ ps, (projections fuel).run ⟨items ++ next :: ts, n, m⟩ = .ok (ps, ⟨next :: ts, n, m⟩) ∧
      List.Forall₂ Shows names ps := by
  induction names generalizing items fuel with
  | nil => exact absurd rfl nonempty
  | cons name names ih =>
    obtain ⟨fuel, rfl⟩ : ∃ k, fuel = k + 3 := ⟨fuel - 3, by simp at enough; omega⟩
    cases names with
    | nil =>
      obtain ⟨t, rfl, ht⟩ := exists_of_singleton hitems
      obtain ⟨p, shows, run⟩ := exists_run_projections_succ ts n m fuel ht (.source hn)
      have last : next.isSymbol "," = false := not_isSymbol hn (by decide)
      refine ⟨[p], ?_, .cons shows .nil⟩
      rw [List.singleton_append, run, last]
      rfl
    | cons second names =>
      obtain ⟨t, mark, more, rfl, ht, hmark, hmore⟩ := exists_of_intersperse hitems
      obtain ⟨p, shows, run⟩ :=
        exists_run_projections_succ (more ++ next :: ts) n m fuel ht (.comma hmark)
      obtain ⟨ps, read, all⟩ := ih (fuel + 2) (List.cons_ne_nil _ _) hmore
        (by simp at enough ⊢; omega)
      refine ⟨p :: ps, ?_, .cons shows all⟩
      rw [List.cons_append, List.cons_append, run, comma_isSymbol hmark, if_pos rfl,
        run_bind_of_ok read]
      rfl

/-- Question marks with commas between them in front of a bracket are the next parameters. -/
theorem exists_run_exprs {count : Nat} (fuel : Nat) (positive : 0 < count)
    (hitems : items.map Token.essence = (List.replicate count questionMark).intersperse comma)
    (hn : next.essence = (.symbol, ")")) (enough : count + 2 ≤ fuel) :
    ∃ es, (exprs fuel).run ⟨items ++ next :: ts, n, m⟩ = .ok (es, ⟨next :: ts, n + count, m⟩) ∧
      List.Forall₂ Refers (List.range' (n + 1) count) es := by
  induction count generalizing items fuel n with
  | zero => exact absurd positive (Nat.lt_irrefl 0)
  | succ count ih =>
    obtain ⟨fuel, rfl⟩ : ∃ k, fuel = k + 3 := ⟨fuel - 3, by omega⟩
    cases count with
    | zero =>
      obtain ⟨t, rfl, ht⟩ := exists_of_singleton hitems
      have last : next.isSymbol "," = false := not_isSymbol hn (by decide)
      refine ⟨[.parameter (n + 1) t.offset], ?_, .cons ⟨t.offset, rfl⟩ .nil⟩
      unfold exprs
      have read := run_expr_questionMark ts n m fuel ht (.bracket hn)
      rw [List.singleton_append, run_bind_of_ok read, run_symbol?_bind, last]
      rfl
    | succ count =>
      obtain ⟨t, mark, more, rfl, ht, hmark, hmore⟩ := exists_of_intersperse hitems
      obtain ⟨es, read, all⟩ := ih (n + 1) (fuel + 2) (Nat.succ_pos count) hmore (by omega)
      have shifted : n + 1 + (count + 1) = n + (count + 1 + 1) := by omega
      refine ⟨.parameter (n + 1) t.offset :: es, ?_, .cons ⟨t.offset, rfl⟩ all⟩
      rw [shifted] at read
      conv => lhs; unfold exprs
      rw [List.cons_append, List.cons_append,
        run_bind_of_ok (run_expr_questionMark _ n m fuel ht (.comma hmark)), run_symbol?_bind,
        comma_isSymbol hmark, if_pos rfl]
      simp only [if_true]
      rw [run_bind_of_ok read]
      rfl

/-- Names with commas between them in front of a bracket are read as they are. -/
theorem run_separated_name (fuel : Nat) (nonempty : names ≠ [])
    (hitems : items.map Token.essence = (names.map quotedToken).intersperse comma)
    (hn : next.essence = (.symbol, ")")) (enough : names.length ≤ fuel) :
    (separated name fuel).run ⟨items ++ next :: ts, n, m⟩ = .ok (names, ⟨next :: ts, n, m⟩) := by
  induction names generalizing items fuel with
  | nil => exact absurd rfl nonempty
  | cons first names ih =>
    obtain ⟨fuel, rfl⟩ : ∃ k, fuel = k + 1 := ⟨fuel - 1, by simp at enough; omega⟩
    cases names with
    | nil =>
      obtain ⟨t, rfl, ht⟩ := exists_of_singleton hitems
      have last : next.isSymbol "," = false := not_isSymbol hn (by decide)
      unfold separated
      rw [List.singleton_append, run_name_bind (Token.name?_quoted ht), run_symbol?_bind, last]
      rfl
    | cons second names =>
      obtain ⟨t, mark, more, rfl, ht, hmark, hmore⟩ := exists_of_intersperse hitems
      have read := ih fuel (List.cons_ne_nil _ _) hmore (by simp at enough ⊢; omega)
      unfold separated
      rw [List.cons_append, List.cons_append, run_name_bind (Token.name?_quoted ht),
        run_symbol?_bind, comma_isSymbol hmark, if_pos rfl]
      simp only [if_true]
      rw [run_bind_of_ok read]
      rfl

end Lists

end FilterStore.Sql
