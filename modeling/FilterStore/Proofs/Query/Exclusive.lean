import FilterStore.Proofs.Calendar.Date
import FilterStore.Proofs.Number.Exact
import FilterStore.Proofs.Query.Precedence
import FilterStore.Store.Session

/-!
# Exclusive or

Two entries of a filter with `XOR` between them are compiled into their conditions with `<>` between
these.  That compares the *values* of the conditions, and values are truth values only if they are
one or zero.
-/

namespace FilterStore

open Engine (truth ofTruth orderBy)
open Reading
open Condition (enclosed)
open Sql (Collation)

/-! ## Numbers as conditions -/

/-- A number.  The engine has no cell for what is no number. -/
def Cell.IsNumber : Cell → Prop
  | .integer _ => True
  | .real x => x.isNaN = false
  | _ => False

theorem Cell.IsNumber.exists_truth {c : Cell} (number : c.IsNumber) : ∃ v, truth c = some v := by
  cases c with
  | integer n => exact ⟨_, rfl⟩
  | real x => exact ⟨_, rfl⟩
  | null | text | blob => exact number.elim

namespace Engine

theorem truth_integer_eq_false (n : Int64) : truth (.integer n) = some false ↔ n = 0 := by
  simp [truth]

theorem truth_real_eq_false (x : Float) : truth (.real x) = some false ↔ (x == 0.0) = true := by
  simp only [truth, bne, Option.some.injEq, Bool.not_eq_false']

section Numbers

variable {a b : Cell} (ha : a.IsNumber) (hb : b.IsNumber) (collation : Collation)

include ha hb

/-- Numbers are equal whichever of them is compared with the other. -/
theorem orderBy_eq_comm : orderBy collation a b = .eq ↔ orderBy collation b a = .eq := by
  cases a with
  | integer m =>
    cases b with
    | integer n =>
      simp only [orderBy, Int.compare_eq_eq]
      exact eq_comm
    | real y => simp [orderBy]
    | null | text | blob => exact hb.elim
  | real x =>
    cases b with
    | integer n => simp [orderBy]
    | real y =>
      have eq_iff (u v : Float) : compareDoubles u v = .eq ↔ ¬ u < v ∧ ¬ v < u := by
        unfold compareDoubles
        split
        · simp [*]
        · split <;> simp [*]
      simp only [orderBy, eq_iff]
      exact and_comm
    | null | text | blob => exact hb.elim
  | null | text | blob => exact ha.elim

/-- The numbers that are false are those that are equal to one that is. -/
theorem orderBy_of_false (fails : truth a = some false) :
    orderBy collation a b = .eq ↔ truth b = some false := by
  have zero : (0 : Int64).toInt = 0 := rfl
  cases a with
  | integer m =>
    rw [truth_integer_eq_false] at fails
    subst fails
    cases b with
    | integer n =>
      rw [truth_integer_eq_false, orderBy, Int.compare_eq_eq, Int64.toInt_inj]
      exact eq_comm
    | real y => rw [truth_real_eq_false, orderBy, zero, Number.compareMixed_zero]
    | null | text | blob => exact hb.elim
  | real x =>
    rw [truth_real_eq_false] at fails
    cases b with
    | integer n =>
      rw [truth_integer_eq_false, orderBy, (Number.holds_zero fails).compareMixed,
        Ordering.swap_eq_eq, Int.compare_eq_eq, ← zero, Int64.toInt_inj]
    | real y => rw [truth_real_eq_false, orderBy, Number.compareDoubles_zero fails hb]
    | null | text | blob => exact hb.elim
  | null | text | blob => exact ha.elim

/-- However an operator leans, it takes numbers as they are. -/
theorem leant_numbers (l : Leaning) : leant l a b = (a, b) := by
  cases l with
  | asNumbers => cases a <;> cases b <;> first | rfl | exact ha.elim | exact hb.elim
  | asTexts => cases a <;> cases b <;> first | rfl | exact ha.elim | exact hb.elim
  | asTheyAre => rfl

/-- Numbers differ as conditions if they differ as numbers. -/
theorem truth_notEqual (l : Leaning) :
    truth (applyBinary .notEqual collation l a b) = some (orderBy collation a b != .eq) := by
  have compared : compareOperands collation l a b = some (orderBy collation a b) := by
    rw [compareOperands, leant_numbers ha hb]
    cases a <;> cases b <;> first | rfl | exact ha.elim | exact hb.elim
  rw [applyBinary, compared]
  exact Reading.truth_ofTruth _

/-- **Numbers differ if exactly one of them is true, and if both are but they are not equal.** -/
theorem truth_notEqual_iff (l : Leaning) :
    truth (applyBinary .notEqual collation l a b) = exclusive (truth a) (truth b) ↔
      (truth a = some true → truth b = some true → orderBy collation a b = .eq) := by
  rw [truth_notEqual ha hb]
  obtain ⟨p, hp⟩ := ha.exists_truth
  obtain ⟨q, hq⟩ := hb.exists_truth
  rw [hp, hq]
  cases p with
  | false =>
    have equal := orderBy_of_false ha hb collation hp
    cases q <;> simp [exclusive, bne, equal, hq]
  | true =>
    cases q with
    | false =>
      have equal := (orderBy_eq_comm ha hb collation).trans (orderBy_of_false hb ha collation hq)
      simp [exclusive, bne, equal, hp]
    | true => simp [exclusive]

end Numbers

end Engine

/-! ## Values of formulas -/

namespace Reading

/-- The cell that the engine makes of a formula whose clauses have cells. -/
def Formula.value (ν : Nat → Cell) : Formula → Cell
  | .clause n _ => ν n
  | .negated e => ofTruth ((Engine.truth (e.value ν)).map Bool.not)
  | .both e f => Engine.applyBinary .and .binary .asTheyAre (e.value ν) (f.value ν)
  | .either e f => Engine.applyBinary .or .binary .asTheyAre (e.value ν) (f.value ν)
  | .differ e f => Engine.applyBinary .notEqual .binary .asTheyAre (e.value ν) (f.value ν)

theorem Formula.cell_eq_value (ν : Nat → Option Bool) (e : Formula) :
    e.cell ν = e.value fun n => ofTruth (ν n) := by
  induction e with
  | clause n body => rfl
  | negated e ih => rw [cell, ih, value]
  | both e f ihe ihf => rw [cell, ihe, ihf, value]
  | either e f ihe ihf => rw [cell, ihe, ihf, value]
  | differ e f ihe ihf => rw [cell, ihe, ihf, value]

/-- What is made of clauses is a truth value, whatever the clauses are. -/
theorem Formula.exists_value_eq (ν : Nat → Cell) (e : Formula) :
    (∃ n body, e = .clause n body) ∨ ∃ v, e.value ν = ofTruth v := by
  cases e with
  | clause n body => exact .inl ⟨n, body, rfl⟩
  | negated e => exact .inr ⟨_, rfl⟩
  | both e f => exact .inr ⟨_, rfl⟩
  | either e f => exact .inr ⟨_, rfl⟩
  | differ e f => exact .inr ⟨_, rfl⟩

theorem Reads.disjunction_of_operand {ts : List Token} {e : Formula} (h : Reads .operand ts e) :
    Reads .disjunction ts e :=
  .ofConjunction (.ofNegation (.ofComparison (.ofOperand h)))

/-- How a token is written, with the blanks around it. -/
def Token.spelled : Token → String
  | .opening => "("
  | .closing => ")"
  | .and => " AND "
  | .or => " OR "
  | .not => "NOT "
  | .differs => " <> "
  | .clause _ body => "(" ++ body ++ ")"

/-- The text of some tokens. -/
def spelledOut (ts : List Token) : String := String.join (ts.map Token.spelled)

@[simp] theorem spelledOut_nil : spelledOut [] = "" := rfl

@[simp] theorem spelledOut_cons (t : Token) (ts : List Token) :
    spelledOut (t :: ts) = t.spelled ++ spelledOut ts := by
  simp [spelledOut]

@[simp] theorem spelledOut_append (ts us : List Token) :
    spelledOut (ts ++ us) = spelledOut ts ++ spelledOut us := by
  simp [spelledOut]

end Reading

namespace Forest

variable (joining : Connective) (body : Leaf → String)

theorem spelledOut_leading (first : Bool) (c : Connective) :
    spelledOut (leading first c) = joiner first c := by
  cases first with
  | true => rfl
  | false => cases c <;> rfl

/-- The text of a forest is its tokens written out. -/
theorem spelledOut_tokens (f : Forest) (first : Bool) (n : Nat) :
    spelledOut (f.tokens joining body first n) = f.text joining body first := by
  induction f generalizing first n with
  | nil => rfl
  | leaf l rest ih =>
    simp [tokens, text, spelledOut_leading, ih, Token.spelled, String.append_assoc]
  | group c inside rest ihInside ihRest =>
    simp [tokens, text, spelledOut_leading, ihInside, ihRest, Token.spelled, String.append_assoc]

theorem tokensOf_text {f : Forest} (groups : f.NoEmptyGroup)
    (bodies : ∀ l ∈ f.leaves, IsBody (body l)) :
    tokensOf (f.text joining body true) = some (f.tokens joining body true 0) := by
  have cut := tokens_text joining body groups bodies true 0 []
  rw [List.append_nil] at cut
  rw [tokensOf, cut]
  simp [Reading.tokens]

/-- The tokens of a forest can be read, whatever number the first clause has. -/
theorem exists_reads {f : Forest} (groups : f.NoEmptyGroup) (nonempty : f ≠ nil) (n : Nat) :
    ∃ e, Reads .disjunction (f.tokens joining body true n) e := by
  obtain ⟨phrases, operands, -, tokens, some⟩ := exists_phrases joining body (fun _ => none) groups n
  cases phrases with
  | nil => exact absurd rfl (some nonempty)
  | cons x rest =>
    obtain ⟨e, reads, -⟩ := says_line operands
    rw [tokens]
    exact ⟨e, reads⟩

/-- A forest with one leaf is read as that leaf, however many brackets there are around it. -/
theorem reads_single {f : Forest} (groups : f.NoEmptyGroup) {l : Leaf} (single : f.leaves = [l])
    (n : Nat) : Reads .disjunction (f.tokens joining body true n) (.clause n (body l)) := by
  have nothing {g : Forest} (groups : g.NoEmptyGroup) (none : g.leaves = []) : g = nil := by
    by_contra some
    obtain ⟨m, hm⟩ := exists_leaf groups fun empty => some (flatten_injective empty)
    rw [none] at hm
    cases hm
  induction f generalizing n with
  | nil => cases single
  | leaf m rest =>
    obtain ⟨rfl, none⟩ := List.cons.inj single
    obtain rfl : rest = nil := nothing (show rest.NoEmptyGroup from groups) none
    exact (Reads.clause n (body m)).disjunction_of_operand
  | group c inside rest ihInside =>
    obtain ⟨nonempty, inner, outer⟩ := groups
    obtain ⟨m, hm⟩ := exists_leaf inner fun empty => nonempty (flatten_injective empty)
    rw [leaves] at single
    obtain ⟨contents, none⟩ : inside.leaves = [l] ∧ rest.leaves = [] := by
      cases h : inside.leaves with
      | nil =>
        rw [h] at hm
        cases hm
      | cons k ks =>
        rw [h] at single
        obtain ⟨rfl, others⟩ := List.cons.inj single
        obtain ⟨rfl, none⟩ := List.append_eq_nil_iff.mp others
        exact ⟨rfl, none⟩
    obtain rfl := nothing outer none
    exact (Reads.bracket (ihInside inner contents n)).disjunction_of_operand

end Forest

/-- The cells of the column clauses among some clauses are truth values.  Those of the raw clauses
may be anything. -/
def TruthfulColumns (ls : List Leaf) (ν : Nat → Cell) : Prop :=
  ∀ n c, ls[n]? = some (.column c) → ∃ v, ν n = ofTruth v

theorem TruthfulColumns.left {ls ms : List Leaf} {ν : Nat → Cell}
    (truthful : TruthfulColumns (ls ++ ms) ν) : TruthfulColumns ls ν := by
  intro n c h
  exact truthful n c (List.getElem?_append_left (List.getElem?_eq_some_iff.mp h).1 ▸ h)

theorem TruthfulColumns.right {ls ms : List Leaf} {ν : Nat → Cell}
    (truthful : TruthfulColumns (ls ++ ms) ν) : TruthfulColumns ms fun n => ν (ls.length + n) := by
  intro n c h
  refine truthful (ls.length + n) c ?_
  rw [List.getElem?_append_right (Nat.le_add_right _ _), Nat.add_sub_cancel_left]
  exact h

/-! ## Entries -/

/-- An entry of a filter, with its contents if it is a group. -/
inductive Tree
  | leaf (l : Leaf)
  | group (connective : Option Connective) (inside : Forest)

namespace Tree

/-- How an entry says it is joined. -/
def connective? : Tree → Option Connective
  | leaf l => l.connective?
  | group c _ => c

/-- An entry with others behind it. -/
def before : Tree → Forest → Forest
  | leaf l, rest => .leaf l rest
  | group c inside, rest => .group c inside rest

/-- An entry as a filter of its own. -/
def alone (t : Tree) : Forest := t.before .nil

/-- The clauses in an entry. -/
def leaves (t : Tree) : List Leaf := t.alone.leaves

/-- An entry is a raw clause, perhaps in brackets. -/
def IsRaw (t : Tree) : Prop := ∃ clause, t.leaves = [.raw clause]

section Tokens

variable (joining : Connective) (body : Leaf → String)

/-- The tokens of an entry, its joiner aside. -/
def tokens (n : Nat) : Tree → List Token
  | leaf l => [.clause n (body l)]
  | group _ inside => .opening :: (inside.tokens joining body true n ++ [.closing])

variable (t : Tree) (rest : Forest)

theorem flatten_before : (t.before rest).flatten = t.alone.flatten ++ rest.flatten := by
  cases t <;> simp [before, alone, Forest.flatten]

theorem leaves_before : (t.before rest).leaves = t.leaves ++ rest.leaves := by
  cases t <;> simp [before, leaves, alone, Forest.leaves]

theorem noEmptyGroup_before :
    (t.before rest).NoEmptyGroup ↔ t.alone.NoEmptyGroup ∧ rest.NoEmptyGroup := by
  cases t <;> simp [before, alone, Forest.NoEmptyGroup, and_assoc]

theorem tokens_before (first : Bool) (n : Nat) :
    (t.before rest).tokens joining body first n =
      Forest.leading first (t.connective?.getD joining) ++ t.tokens joining body n ++
        rest.tokens joining body false (n + t.leaves.length) := by
  cases t <;> simp [before, leaves, alone, connective?, tokens, Forest.tokens, Forest.leaves]

theorem tokens_alone (n : Nat) :
    t.alone.tokens joining body true n = t.tokens joining body n := by
  rw [alone, tokens_before]
  simp [Forest.leading, Forest.tokens]

/-- Two entries are written with the joiner of the second one between them. -/
theorem tokens_pair (second : Tree) :
    (t.before second.alone).tokens joining body true 0 =
      t.tokens joining body 0 ++ (joinerTokens (second.connective?.getD joining) ++
        second.tokens joining body t.leaves.length) := by
  rw [tokens_before, alone, tokens_before]
  simp [Forest.leading, Forest.tokens]

theorem text_alone (n : Nat) :
    t.alone.text joining body true = spelledOut (t.tokens joining body n) := by
  rw [← Forest.spelledOut_tokens joining body _ true n, tokens_alone]

variable {t}

/-- An entry can be read as an operand.  If its column clauses are truth values, then so is the
entry, unless it is a raw clause. -/
theorem exists_reads (groups : t.alone.NoEmptyGroup) (n : Nat) :
    ∃ e, Reads .operand (t.tokens joining body n) e ∧ ∀ ν : Nat → Cell,
      TruthfulColumns t.leaves (fun i => ν (n + i)) → t.IsRaw ∨ ∃ v, e.value ν = ofTruth v := by
  have readable : ∃ e, Reads .operand (t.tokens joining body n) e := by
    cases t with
    | leaf l => exact ⟨_, .clause n (body l)⟩
    | group c inside =>
      obtain ⟨nonempty, inner, -⟩ := groups
      obtain ⟨e, reads⟩ := Forest.exists_reads joining body inner nonempty n
      exact ⟨e, .bracket reads⟩
  obtain ⟨e, reads⟩ := readable
  refine ⟨e, reads, fun ν columns => ?_⟩
  rcases e.exists_value_eq ν with ⟨m, text, rfl⟩ | made
  · -- A clause is all there is in the entry.
    have one := reads.bodies
    rw [← tokens_alone, Forest.bodies_tokens] at one
    obtain ⟨l, single, rfl⟩ := List.map_eq_singleton_iff.mp one.symm
    have lone := Forest.reads_single joining body groups single n
    rw [tokens_alone] at lone
    cases reads.disjunction_of_operand.unique lone
    cases l with
    | raw clause => exact .inl ⟨clause, single⟩
    | column c => exact .inr (columns 0 c (by rw [leaves, single]; rfl))
  · exact .inr made

end Tokens

end Tree

namespace Registry

variable {r : Registry} {table : String} {connective : Option Connective}

/-- Two entries that are accepted beside each other are accepted alone, and what the whole is
compiled into is the text of both with the joiner between them. -/
theorem exists_compileWhere_pair {first second : Tree} {q : Query}
    (accepted : r.compileWhere table (first.alone.flatten ++ second.alone.flatten) connective =
      .ok (some q)) :
    ∃ (body : Leaf → Query) (a b : Query),
      first.alone.NoEmptyGroup ∧ second.alone.NoEmptyGroup ∧
      (∀ l ∈ first.leaves ++ second.leaves,
        r.compileWhere table [l.entry] connective = .ok (some (enclosed (body l)))) ∧
      r.compileWhere table first.alone.flatten connective = .ok (some a) ∧
      r.compileWhere table second.alone.flatten connective = .ok (some b) ∧
      a.sql = first.alone.text (connective.getD .and) (fun l => (body l).sql) true ∧
      b.sql = second.alone.text (connective.getD .and) (fun l => (body l).sql) true ∧
      q.sql = (first.before second.alone).text (connective.getD .and) (fun l => (body l).sql) true ∧
      q.values = a.values ++ b.values := by
  have line : first.alone.flatten ++ second.alone.flatten = (first.before second.alone).flatten :=
    (first.flatten_before second.alone).symm
  have nonempty (t : Tree) (rest : Forest) : (t.before rest).flatten ≠ [] := by
    cases t <;> exact List.cons_ne_nil _ _
  rw [line, compileWhere_eq_ok_iff_forest r table connective (nonempty first _)] at accepted
  obtain ⟨f, body, flattened, groups, clauses, answer⟩ := accepted
  obtain rfl := Forest.flatten_injective flattened
  rw [Tree.noEmptyGroup_before] at groups
  rw [Tree.leaves_before] at clauses
  have alone (t : Tree) (groups : t.alone.NoEmptyGroup) (clauses : ∀ l ∈ t.leaves,
      r.compileWhere table [l.entry] connective = .ok (some (enclosed (body l)))) :=
    (compileWhere_eq_ok_iff_forest r table connective (nonempty t .nil) _).mpr
      ⟨t.alone, body, rfl, groups, clauses, rfl⟩
  obtain ⟨left, right⟩ := List.forall_mem_append.mp clauses
  refine ⟨body, _, _, groups.1, groups.2, clauses, alone first groups.1 left,
    alone second groups.2 right, rfl, rfl, ?_⟩
  rw [Option.some.inj answer, Tree.leaves_before, List.flatMap_append]
  exact ⟨rfl, rfl⟩

/-- **Between two entries, `XOR` compares their values.**  What the entries are compiled into alone
stands on both sides of a `<>`, and nothing else can be read there.  Unless an entry is a raw clause,
perhaps in brackets, it is a truth value.  Where both sides are numbers, exactly one of them has to
be true, except that numbers which are both true and not equal differ as well. -/
theorem compileWhere_xor {first second : Tree} {q : Query}
    (joined : second.connective?.getD (connective.getD .and) = .xor)
    (accepted : r.compileWhere table (first.alone.flatten ++ second.alone.flatten) connective =
      .ok (some q)) :
    ∃ (body : Leaf → Query) (a b : Query) (ts us : List Token) (e f : Formula),
      (∀ l ∈ first.leaves ++ second.leaves,
        r.compileWhere table [l.entry] connective = .ok (some (enclosed (body l)))) ∧
      r.compileWhere table first.alone.flatten connective = .ok (some a) ∧
      r.compileWhere table second.alone.flatten connective = .ok (some b) ∧
      q = a ++ .text " <> " ++ b ∧ a.sql = spelledOut ts ∧ b.sql = spelledOut us ∧
      ((∀ l ∈ first.leaves ++ second.leaves, IsBody (body l).sql) →
        tokensOf q.sql = some (ts ++ .differs :: us)) ∧
      (∀ g, Reads .disjunction (ts ++ .differs :: us) g ↔ g = .differ e f) ∧
      (Formula.differ e f).bodies = (first.leaves ++ second.leaves).map (fun l => (body l).sql) ∧
      ∀ ν : Nat → Cell, TruthfulColumns (first.leaves ++ second.leaves) ν →
        (first.IsRaw ∨ ∃ v, e.value ν = ofTruth v) ∧
        (second.IsRaw ∨ ∃ v, f.value ν = ofTruth v) ∧
        ((e.value ν).IsNumber → (f.value ν).IsNumber →
          (truth ((Formula.differ e f).value ν) =
              exclusive (truth (e.value ν)) (truth (f.value ν)) ↔
            (truth (e.value ν) = some true → truth (f.value ν) = some true →
              Engine.same (e.value ν) (f.value ν) = true))) := by
  obtain ⟨body, a, b, firstGroups, secondGroups, clauses, compiledFirst, compiledSecond, textFirst,
    textSecond, text, values⟩ := exists_compileWhere_pair accepted
  let texts : Leaf → String := fun l => (body l).sql
  let next := first.leaves.length
  obtain ⟨e, left, valuesLeft⟩ := Tree.exists_reads (connective.getD .and) texts firstGroups 0
  obtain ⟨f, right, valuesRight⟩ := Tree.exists_reads (connective.getD .and) texts secondGroups next
  have reads := (Reads.differ (.ofOperand left) right).ofComparison.ofNegation.ofConjunction
  have whole := first.tokens_pair (connective.getD .and) texts second
  rw [joined] at whole
  rw [first.text_alone _ texts 0] at textFirst
  rw [second.text_alone _ texts next] at textSecond
  have joint : q = a ++ .text " <> " ++ b := by
    ext1
    · rw [text, ← Forest.spelledOut_tokens _ texts _ true 0, whole]
      simp [joinerTokens, Token.spelled, String.append_assoc, textFirst, textSecond, next]
    · simp [values]
  refine ⟨body, a, b, _, _, e, f, clauses, compiledFirst, compiledSecond, joint, textFirst,
    textSecond, fun plain => ?_, fun g => ⟨fun other => other.unique reads, fun same => same ▸ reads⟩,
    ?_, fun ν truthful => ⟨?_, valuesRight ν truthful.right, fun hl hr => ?_⟩⟩
  · have cut := Forest.tokensOf_text (connective.getD .and) texts
      ((first.noEmptyGroup_before _).mpr ⟨firstGroups, secondGroups⟩) (first.leaves_before _ ▸ plain)
    rw [text]
    exact cut.trans (congrArg some whole)
  · rw [reads.bodies]
    have bodies := Forest.bodies_tokens (connective.getD .and) texts (first.before second.alone)
      true 0
    rw [whole, Tree.leaves_before] at bodies
    exact bodies
  · refine valuesLeft ν ?_
    simpa using truthful.left
  · rw [Formula.value, Engine.truth_notEqual_iff hl hr]
    simp [Engine.same, Engine.sameBy]

/-! ### Two conditions that are both true -/

/-- The users whose age is not zero. -/
def aged : Tree := .leaf (.raw ⟨"age", []⟩)

/-- The users from Berlin, joined by `XOR`. -/
def fromBerlin : Tree :=
  .leaf (.column ⟨"city", "=", some (.value (.text "Berlin")), some .xor⟩)

/-- A user from Berlin is not left out if the age is any number but zero and one. -/
theorem compileWhere_xor_fromBerlin :
    fromBerlin.connective?.getD ((none : Option Connective).getD .and) = .xor ∧
      ofUsers.compileWhere "user" (aged.alone.flatten ++ fromBerlin.alone.flatten) none =
        .ok (some ⟨"(age) <> (city = ?)", [.text "Berlin"]⟩) ∧
      tokensOf "(age) <> (city = ?)" = some [.clause 0 "age", .differs, .clause 1 "city = ?"] ∧
      (∀ g, Reads .disjunction [.clause 0 "age", .differs, .clause 1 "city = ?"] g ↔
        g = .differ (.clause 0 "age") (.clause 1 "city = ?")) ∧
      ∀ age : Cell, age.IsNumber →
        (truth (Engine.applyBinary .notEqual .binary .asTheyAre age (.integer 1)) =
            exclusive (truth age) (some true) ↔
          (truth age = some true → Engine.same age (.integer 1) = true)) := by
  have joined : fromBerlin.connective?.getD ((none : Option Connective).getD .and) = .xor := rfl
  have accepted : ofUsers.compileWhere "user" (aged.alone.flatten ++ fromBerlin.alone.flatten) none =
      .ok (some ⟨"(age) <> (city = ?)", [.text "Berlin"]⟩) := rfl
  have pieces : tokensOf "(age) <> (city = ?)" =
      some [.clause 0 "age", .differs, .clause 1 "city = ?"] := by decide
  refine ⟨joined, accepted, pieces, ?_⟩
  obtain ⟨body, a, b, ts, us, e, f, clauses, -, -, -, -, -, cut, reads, -, values⟩ :=
    compileWhere_xor joined accepted
  have plain : ∀ l ∈ aged.leaves ++ fromBerlin.leaves, IsBody (body l).sql := by
    have compiled := clauses
    simp only [aged, fromBerlin, Tree.leaves, Tree.alone, Tree.before, Forest.leaves,
      List.cons_append, List.nil_append, List.forall_mem_cons] at compiled ⊢
    obtain ⟨age, city, -⟩ := compiled
    have age : enclosed ⟨"age", []⟩ = enclosed (body _) := Option.some.inj (Except.ok.inj age)
    have city : enclosed ⟨"city = ?", [.text "Berlin"]⟩ = enclosed (body _) :=
      Option.some.inj (Except.ok.inj city)
    rw [← enclosed_injective age, ← enclosed_injective city]
    exact ⟨⟨'a', _, rfl, by decide, by decide, balanced_of_notMem (by decide)⟩,
      ⟨'c', _, rfl, by decide, by decide, balanced_of_notMem (by decide)⟩,
      fun l hl => absurd hl List.not_mem_nil⟩
  have whole := Option.some.inj (pieces.symm.trans (cut plain))
  rw [← whole] at reads
  have read : Reads .disjunction [.clause 0 "age", .differs, .clause 1 "city = ?"]
      (.differ (.clause 0 "age") (.clause 1 "city = ?")) :=
    (Reads.differ (.ofOperand (.clause 0 "age")) (.clause 1 "city = ?")).ofComparison.ofNegation
      |>.ofConjunction
  cases (reads _).mp read
  refine ⟨reads, fun age number => ?_⟩
  have truthful : TruthfulColumns (aged.leaves ++ fromBerlin.leaves)
      fun n => if n = 0 then age else .integer 1 := by
    intro n c h
    cases n with
    | zero => cases h
    | succ n => exact ⟨some true, rfl⟩
  have compared := (values _ truthful).2.2 number trivial
  simpa [truth, Formula.value] using compared

/-- Inserts a user of thirty years from Berlin, and counts the users with an age, those from Berlin,
and those for whom exactly one of the two is true. -/
def countedUsers : Action (List Nat) := do
  for sql in ofUsers.createStatements do
    Action.batch sql
  let session : Session := ⟨ofUsers, [], false⟩
  let filter (entries : List Entry) : Spec := { Spec.empty with filter := entries }
  let _ ← session.insert "user" ⟨[("age", .integer 30), ("city", .text "Berlin")]⟩
  [filter aged.alone.flatten, filter fromBerlin.alone.flatten,
    filter (aged.alone.flatten ++ fromBerlin.alone.flatten)].mapM (session.count "user")

/-- Both are true of the user, who is counted all the same: thirty is not one. -/
theorem not_exclusive_aged :
    ofUsers.Reachable ∧ fromBerlin.connective? = some .xor ∧
      exclusive (truth (.integer 30)) (truth (.integer 1)) = some false ∧
        (countedUsers.run (.ofDatabase .empty .epoch)).1.toOption = some [1, 1, 1] :=
  ⟨ofUsers_reachable, rfl, by decide, by decide +kernel⟩

end Registry

end FilterStore
