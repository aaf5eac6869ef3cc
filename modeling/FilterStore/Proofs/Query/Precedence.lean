import FilterStore.Proofs.Query.Parts
import FilterStore.Proofs.Query.Phrase

/-!
# A condition means what its filter means

The text of a filter is written tree by tree, and its meaning is read off the trees.  SQL knows
nothing of trees: it cuts the text into tokens and reads these by precedence.  That both agree is
shown in three steps, each along the forest.

First, the text is cut into the tokens that were meant: the parentheses around a group are brackets,
since a group starts with a parenthesis of its own, and the parentheses around a clause are not,
since a clause starts with the name of a column.  The parentheses inside a clause are matched, so
the clause ends where it should.  Second, the tokens of each tree can be read as an operand, and
those of a line of trees as a disjunction with the meaning of the line.  Third, there is no other
reading.
-/

namespace FilterStore

open Reading

/-! ## The tokens of a forest -/

namespace Forest

/-- The tokens between a tree and the one before it, given whether there is none. -/
def leading (first : Bool) (c : Connective) : List Token := if first then [] else joinerTokens c

variable (joining : Connective) (body : Leaf → String)

/-- The tokens of a forest, the first clause of which has a number. -/
def tokens : Bool → Nat → Forest → List Token
  | _, _, nil => []
  | first, n, leaf l rest =>
    leading first (l.connective?.getD joining) ++ .clause n (body l) :: rest.tokens false (n + 1)
  | first, n, group c inside rest =>
    leading first (c.getD joining) ++ .opening :: (inside.tokens true n ++
      .closing :: rest.tokens false (n + inside.leaves.length))

theorem bodies_leading (first : Bool) (c : Connective) :
    (leading first c).filterMap Token.body? = [] := by
  cases first with
  | true => rfl
  | false => cases c <;> rfl

/-- The clauses among the tokens are the leaves. -/
theorem bodies_tokens (f : Forest) (first : Bool) (n : Nat) :
    (f.tokens joining body first n).filterMap Token.body? = f.leaves.map body := by
  induction f generalizing first n with
  | nil => rfl
  | leaf l rest ih =>
    have hclause : Token.body? (.clause n (body l)) = some (body l) := rfl
    rw [tokens, List.filterMap_append, bodies_leading, List.nil_append,
      List.filterMap_cons_some hclause, ih, leaves, List.map_cons]
  | group c inside rest ihInside ihRest =>
    rw [tokens, List.filterMap_append, bodies_leading, List.nil_append, List.filterMap_cons_none rfl,
      List.filterMap_append, List.filterMap_cons_none rfl, ihInside, ihRest, leaves,
      List.map_append]

/-! ## Cutting the text -/

/-- A forest that is not empty is written with a parenthesis first. -/
theorem exists_text_eq {f : Forest} (hne : f ≠ nil) :
    ∃ cs, (f.text joining body true).toList = '(' :: cs := by
  cases f with
  | nil => exact absurd rfl hne
  | leaf l rest => exact ⟨_, by simp [text, joiner]; rfl⟩
  | group c inside rest => exact ⟨_, by simp [text, joiner]; rfl⟩

theorem tokens_joiner (first : Bool) (c : Connective) (n : Nat) (cs : List Char) :
    Reading.tokens .outside n ((joiner first c).toList ++ cs) =
      (Reading.tokens .outside n cs).map (leading first c ++ ·) := by
  cases first with
  | true => simp [joiner, leading]
  | false =>
    cases c with
    | and =>
      have htext : (joiner false .and).toList = [' ', 'A', 'N', 'D', ' '] := rfl
      simp [htext, Reading.tokens, leading, joinerTokens]
    | or =>
      have htext : (joiner false .or).toList = [' ', 'O', 'R', ' '] := rfl
      simp [htext, Reading.tokens, leading, joinerTokens]
    | xor =>
      have htext : (joiner false .xor).toList = [' ', '<', '>', ' '] := rfl
      simp [htext, Reading.tokens, leading, joinerTokens]
    | not =>
      have htext : (joiner false .not).toList =
        [' ', 'A', 'N', 'D', ' ', 'N', 'O', 'T', ' '] := rfl
      simp [htext, Reading.tokens, leading, joinerTokens, Function.comp_def]

/-- A parenthesis before a forest that is not empty is a bracket. -/
theorem tokens_opening {f : Forest} (hne : f ≠ nil) (n : Nat) (cs : List Char) :
    Reading.tokens .outside n ('(' :: ((f.text joining body true).toList ++ cs)) =
      (Reading.tokens .outside n ((f.text joining body true).toList ++ cs)).map
        (.opening :: ·) := by
  obtain ⟨ds, hds⟩ := exists_text_eq joining body hne
  rw [hds, List.cons_append, Reading.tokens, Reading.tokens, Reading.tokens]

/-- **The text of a forest is cut into its tokens.** -/
theorem tokens_text {f : Forest} (hgroups : f.NoEmptyGroup)
    (hbody : ∀ l ∈ f.leaves, IsBody (body l)) (first : Bool) (n : Nat) (cs : List Char) :
    Reading.tokens .outside n ((f.text joining body first).toList ++ cs) =
      (Reading.tokens .outside (n + f.leaves.length) cs).map
        (f.tokens joining body first n ++ ·) := by
  have hopen : "(".toList = ['('] := rfl
  have hclose : ")".toList = [')'] := rfl
  induction f generalizing first n cs with
  | nil => simp [text, tokens, leaves]
  | leaf l rest ih =>
    obtain ⟨hl, hrest⟩ := List.forall_mem_cons.mp hbody
    simp only [text, String.toList_append, hopen, hclose, List.append_assoc, List.cons_append,
      List.nil_append]
    have hnumber : n + 1 + rest.leaves.length = n + (leaf l rest).leaves.length := by
      rw [leaves, List.length_cons]
      omega
    rw [tokens_joiner, tokens_clause hl, ih hgroups hrest, hnumber]
    simp only [Option.map_map]
    refine congrArg (Option.map · _) (funext fun ts => ?_)
    simp [tokens]
  | group c inside rest ihInside ihRest =>
    obtain ⟨hne, hinside, hrest⟩ := hgroups
    simp only [text, String.toList_append, hopen, hclose, List.append_assoc, List.cons_append,
      List.nil_append]
    have hclosing : ∀ m ds, Reading.tokens .outside m (')' :: ds) =
        (Reading.tokens .outside m ds).map (.closing :: ·) := fun m ds => by
      simp only [Reading.tokens]
    have hnumber : n + inside.leaves.length + rest.leaves.length =
        n + (group c inside rest).leaves.length := by
      rw [leaves, List.length_append]
      omega
    rw [tokens_joiner, tokens_opening joining body hne,
      ihInside hinside fun l hl => hbody l (List.mem_append_left _ hl), hclosing,
      ihRest hrest fun l hl => hbody l (List.mem_append_right _ hl), hnumber]
    simp only [Option.map_map]
    refine congrArg (Option.map · _) (funext fun ts => ?_)
    simp [tokens]

/-! ## Reading the tokens -/

variable (ν : Nat → Option Bool)

/-- The tokens of a line that starts with nothing before it. -/
def lineTokens (first : Bool) : List (Connective × Phrase) → List Token
  | [] => []
  | x :: rest => leading first x.1 ++ x.2.tokens ++ following rest

/-- **The trees of a forest can be read as operands with the meaning they have.** -/
theorem exists_phrases {f : Forest} (hgroups : f.NoEmptyGroup) (n : Nat) :
    ∃ phrases : List (Connective × Phrase),
      (∀ x ∈ phrases, Says ν .operand x.2.tokens x.2.truth) ∧ f.line joining ν n = truths phrases ∧
        (∀ first, f.tokens joining body first n = lineTokens first phrases) ∧
          (f ≠ nil → phrases ≠ []) := by
  have hfollowing : ∀ xs, lineTokens false xs = following xs := by
    intro xs
    cases xs with
    | nil => rfl
    | cons x rest => rfl
  induction f generalizing n with
  | nil => exact ⟨[], nofun, rfl, fun _ => rfl, fun h => absurd rfl h⟩
  | leaf l rest ih =>
    obtain ⟨phrases, hsays, hline, htokens, -⟩ := ih hgroups (n + 1)
    refine ⟨(l.connective?.getD joining, ⟨[.clause n (body l)], ν n⟩) :: phrases, ?_, ?_, ?_,
      fun _ => List.cons_ne_nil _ _⟩
    · exact List.forall_mem_cons.mpr ⟨Says.clause n (body l), hsays⟩
    · rw [line, hline]
      rfl
    · intro first
      rw [tokens, htokens, hfollowing, lineTokens, List.append_assoc]
      rfl
  | group c inside rest ihInside ihRest =>
    obtain ⟨hne, hinside, hrest⟩ := hgroups
    obtain ⟨contents, hcontents, hinsideLine, hinsideTokens, hnonempty⟩ := ihInside hinside n
    obtain ⟨phrases, hsays, hline, htokens, -⟩ := ihRest hrest (n + inside.leaves.length)
    -- The contents of the group, read as a line and put into brackets.
    have hgroup : Says ν .operand (.opening :: (inside.tokens joining body true n ++ [.closing]))
        (Meaning.ofLine (inside.line joining ν n)) := by
      rw [hinsideTokens, hinsideLine]
      cases contents with
      | nil => exact absurd rfl (hnonempty hne)
      | cons x others => exact (says_line hcontents).bracket
    refine ⟨(c.getD joining, ⟨_, _⟩) :: phrases, List.forall_mem_cons.mpr ⟨hgroup, hsays⟩, ?_, ?_,
      fun _ => List.cons_ne_nil _ _⟩
    · rw [line, hline]
      rfl
    · intro first
      rw [tokens, htokens, hfollowing, lineTokens]
      simp

/-- **The tokens of a forest can be read with the meaning of the forest.** -/
theorem says_tokens {f : Forest} (hgroups : f.NoEmptyGroup) (hne : f ≠ nil) :
    Says ν .disjunction (f.tokens joining body true 0) (f.meaning joining ν) := by
  obtain ⟨phrases, hsays, hline, htokens, hnonempty⟩ :=
    exists_phrases joining body ν hgroups 0
  rw [htokens, meaning, hline]
  cases phrases with
  | nil => exact absurd rfl (hnonempty hne)
  | cons x rest => exact says_line hsays

end Forest

/-! ## Conditions as clauses -/

theorem balanced_append {s t : String} (hs : Balanced s.toList) (ht : Balanced t.toList) :
    Balanced (s ++ t).toList := by
  rw [String.toList_append]
  exact hs.append ht

theorem balanced_intercalate {separator : String} (hseparator : Balanced separator.toList)
    {parts : List String} (hparts : ∀ s ∈ parts, Balanced s.toList) :
    Balanced (separator.intercalate parts).toList :=
  Text.intercalate_induct (P := fun s => Balanced s.toList) .nil balanced_append hseparator hparts

theorem balanced_of_isWord {s : String} (h : Text.IsWord s) : Balanced s.toList := by
  refine balanced_of_notMem ⟨fun hopen => ?_, fun hclose => ?_⟩
  · exact absurd (h.chars _ hopen) (by decide)
  · exact absurd (h.chars _ hclose) (by decide)

theorem balanced_name (o : Operator) : Balanced o.name.toList := by
  cases o with
  | compare c => cases c <;> exact balanced_of_notMem (by decide)
  | _ => exact balanced_of_notMem (by decide)

/-- What starts with a word and has its parentheses matched can be a clause. -/
theorem isBody_of_isWord {column s : String} (hcolumn : Text.IsWord column)
    (hs : Balanced s.toList) : IsBody (column ++ s) := by
  have hchars := hcolumn.chars
  cases h : column.toList with
  | nil => exact absurd (String.toList_eq_nil_iff.mp h) hcolumn.ne_empty
  | cons c cs =>
    have hword := hchars c (by rw [h]; exact List.mem_cons_self)
    have hbalanced := balanced_of_isWord hcolumn
    rw [h] at hbalanced
    refine ⟨c, cs ++ s.toList, by rw [String.toList_append, h, List.cons_append], ?_, ?_, ?_⟩
    · rintro rfl
      exact absurd hword (by decide)
    · rintro rfl
      exact absurd hword (by decide)
    · cases hbalanced with
      | char _ _ hcs => exact hcs.append hs
      | group hinside hrest => exact absurd hword (by decide)

/-- A condition without a raw clause can be a clause. -/
theorem Clause.Shape.isBody {column : String} (hcolumn : Text.IsWord column) {q : Query}
    (h : Clause.Shape column none q) : IsBody q.sql := by
  have hlead : ∀ (o : Operator) {s : String}, Balanced s.toList →
      IsBody (column ++ " " ++ o.name ++ s) := by
    intro o s hs
    rw [String.append_assoc, String.append_assoc]
    refine isBody_of_isWord hcolumn (balanced_append (balanced_of_notMem (by decide)) ?_)
    exact balanced_append (balanced_name o) hs
  cases h with
  | isNull => exact isBody_of_isWord hcolumn (balanced_of_notMem (by decide))
  | notNull => exact isBody_of_isWord hcolumn (balanced_of_notMem (by decide))
  | compared o cell => exact hlead o (balanced_of_notMem (by decide))
  | between o low high => exact hlead o (balanced_of_notMem (by decide))
  | among o cells hcells =>
    have hmarks : Balanced (Query.marks cells.length).toList := by
      refine balanced_intercalate (balanced_of_notMem (by decide)) fun s hs => ?_
      rw [(List.mem_replicate.mp hs).2]
      exact balanced_of_notMem (by decide)
    have hlist : Balanced (" (" ++ Query.marks cells.length ++ ")").toList := by
      rw [String.toList_append, String.toList_append, List.append_assoc]
      exact .char (by decide) (by decide) (.group hmarks .nil)
    have h := hlead o hlist
    rwa [← String.append_assoc, ← String.append_assoc] at h
  | all cells hcells =>
    have hpart : Balanced (column ++ " = ?").toList :=
      balanced_append (balanced_of_isWord hcolumn) (balanced_of_notMem (by decide))
    match cells, hcells with
    | [_], _ => exact isBody_of_isWord hcolumn (balanced_of_notMem (by decide))
    | _ :: d :: rest, _ =>
      simp only [List.length_cons, List.replicate_succ]
      rw [String.intercalate_cons_cons, String.append_assoc, String.append_assoc]
      refine isBody_of_isWord hcolumn (balanced_append (balanced_of_notMem (by decide)) ?_)
      refine balanced_append (balanced_of_notMem (by decide)) ?_
      refine balanced_intercalate (balanced_of_notMem (by decide)) fun s hs => ?_
      rw [← List.replicate_succ] at hs
      rw [(List.mem_replicate.mp hs).2]
      exact hpart

/-- A leaf without a raw clause in it is written as a clause. -/
theorem Leaf.isBody {r : Registry} {t : TableDefinition} (ht : t.WellNamed) {index : Nat} {l : Leaf}
    {body : Query} (h : l.compile r t index = .ok body) (hraw : l.written? = none) :
    IsBody body.sql := by
  cases l with
  | raw clause => cases hraw
  | column c =>
    rw [compile] at h
    obtain ⟨o, ho, hshape⟩ := ColumnClause.exists_shape h
    rw [written?, ho, Option.bind_some] at hraw
    rw [hraw] at hshape
    obtain ⟨_, ⟨⟩, -⟩ | ⟨d, hd, hshape⟩ := hshape
    exact hshape.isBody (isWord_of_isIdentifier (ht.columns d hd)).lower

/-! ## Meaning is kept -/

namespace Registry

/-- **A condition means what its filter means.**  The condition of a filter without raw clauses is
cut into tokens with one clause for each leaf, the tokens have one reading, and whatever the truth
values of the clauses are, the engine computes what the one forest of the filter means. -/
theorem compileWhere_meaning {r : Registry} (hr : r.Reachable) {table : String}
    {filter : List Entry} {connective : Option Connective} {q : Query}
    (hraw : writtenRaws filter = [])
    (hq : r.compileWhere table filter connective = .ok (some q)) :
    ∃ (f : Forest) (ts : List Token) (e : Formula),
      f.flatten = filter ∧ (∀ g : Forest, g.flatten = filter → g = f) ∧
        tokensOf q.sql = some ts ∧ Reads .disjunction ts e ∧
        (∀ e', Reads .disjunction ts e' → e' = e) ∧
        (∃ body : Leaf → Query, e.bodies = f.leaves.map (fun l => (body l).sql) ∧
          ∀ l ∈ f.leaves,
            r.compileWhere table [l.entry] connective = .ok (some (Condition.enclosed (body l)))) ∧
        ∀ ν : Nat → Option Bool,
          e.cell ν = Engine.ofTruth (f.meaning (connective.getD .and) ν) := by
  have hne : filter ≠ [] := by
    rintro rfl
    obtain ⟨t, -, hq⟩ := bind_eq_ok_iff.mp hq
    cases hq
  obtain ⟨t, ht, f, body, rfl, hgroups, hbody, hanswer⟩ := exists_forest_of_compileWhere hne hq
  rw [Option.some.injEq] at hanswer
  have hfne : f ≠ .nil := by
    rintro rfl
    exact hne rfl
  have hnames := hr.wellNamed t (mem_tables_of_table? ht)
  have hclauses : ∀ l ∈ f.leaves, IsBody (body l).sql := by
    intro l hl
    refine Leaf.isBody hnames (hbody l hl) ?_
    rw [writtenRaws, leavesOf_flatten, List.filterMap_eq_nil_iff] at hraw
    exact hraw l hl
  let ts := f.tokens (connective.getD .and) (fun l => (body l).sql) true 0
  have htokens : tokensOf q.sql = some ts := by
    have h := Forest.tokens_text (connective.getD .and) (fun l => (body l).sql) hgroups hclauses
      true 0 []
    rw [List.append_nil] at h
    rw [hanswer, tokensOf, h]
    simp [Reading.tokens, ts]
  have hsays := fun ν => Forest.says_tokens (connective.getD .and) (fun l => (body l).sql) ν hgroups
    hfne
  obtain ⟨e, he, -⟩ := hsays fun _ => none
  refine ⟨f, ts, e, rfl, fun g hg => Forest.flatten_injective hg, htokens, he,
    fun e' he' => he'.unique he, ⟨body, ?_, ?_⟩, fun ν => ?_⟩
  · rw [he.bodies]
    exact Forest.bodies_tokens _ _ f true 0
  · exact fun l hl => compileWhere_leaf_eq_ok_iff.mpr ⟨t, ht, hbody l hl⟩
  · obtain ⟨e', he', htruth⟩ := hsays ν
    rw [he.unique he', Formula.cell_eq, htruth]

/-- Adults outside Berlin, unless they are old, and all whose age is not known. -/
def adultsElsewhere : Forest :=
  .leaf (.column ⟨"age", ">", some (.value (.integer 18)), none⟩)
    (.leaf (.column ⟨"city", "=", some (.value (.text "Berlin")), some .not⟩)
      (.leaf (.column ⟨"age", "<", some (.value (.integer 65)), some .xor⟩)
        (.group (some .or)
          (.leaf (.column ⟨"age", "isnull", none, none⟩) .nil) .nil)))

theorem compileWhere_adultsElsewhere :
    ofUsers.Reachable ∧ writtenRaws adultsElsewhere.flatten = [] ∧
      ofUsers.compileWhere "user" adultsElsewhere.flatten none =
        .ok (some ⟨"(age > ?) AND NOT (city = ?) <> (age < ?) OR ((age ISNULL))",
          [.integer 18, .text "Berlin", .integer 65]⟩) ∧
      ∃ e, Reads .disjunction
          [.clause 0 "age > ?", .and, .not, .clause 1 "city = ?", .differs, .clause 2 "age < ?", .or,
            .opening, .clause 3 "age ISNULL", .closing] e ∧
        e.cell (fun n => if n = 3 then none else some true) = .integer 1 := by
  have hraw : writtenRaws adultsElsewhere.flatten = [] := rfl
  have hq : ofUsers.compileWhere "user" adultsElsewhere.flatten none =
      .ok (some ⟨"(age > ?) AND NOT (city = ?) <> (age < ?) OR ((age ISNULL))",
        [.integer 18, .text "Berlin", .integer 65]⟩) := rfl
  refine ⟨ofUsers_reachable, hraw, hq, ?_⟩
  obtain ⟨f, ts, e, hf, -, hts, he, -, -, hcell⟩ := compileWhere_meaning ofUsers_reachable hraw hq
  rw [Forest.flatten_injective hf] at hcell
  cases hts
  exact ⟨e, he, hcell _⟩

end Registry

end FilterStore
