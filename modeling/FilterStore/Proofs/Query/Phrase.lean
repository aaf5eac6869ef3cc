import FilterStore.Proofs.Query.Meaning

/-!
# Phrases of a line

A line of trees is written with joiners between the trees.  Joiners are written so that SQL reads
the line as it is meant: `NOT` is written `AND NOT`, and `XOR` is written `<>`, which binds tighter
than `NOT`, so a run behind a `NOT` is negated as a whole.

The cuts of the line are the phrases of the grammar.  A run is a comparison, with a `NOT` before it
a negation; an alternative is a conjunction of these; the line is a disjunction of alternatives.
Each of these is a first phrase with others behind it, an operator before each of the others, and
that is read from the left: `Says.chain`.
-/

namespace FilterStore

/-! ## Cutting a list into groups -/

section Groups

variable {α β : Type}

/-- A list is some elements of a kind, and groups that start with an element which is not of the
kind and go on with elements which are. -/
theorem exists_groups (p : α → Bool) (xs : List α) :
    ∃ (first : List α) (groups : List (α × List α)),
      xs = first ++ groups.flatMap (fun g => g.1 :: g.2) ∧ (∀ y ∈ first, p y = true) ∧
        ∀ g ∈ groups, p g.1 = false ∧ ∀ y ∈ g.2, p y = true := by
  induction xs with
  | nil => exact ⟨[], [], rfl, nofun, nofun⟩
  | cons y ys ih =>
    obtain ⟨first, groups, rfl, hfirst, hgroups⟩ := ih
    cases hy : p y with
    | true => exact ⟨y :: first, groups, rfl, List.forall_mem_cons.mpr ⟨hy, hfirst⟩, hgroups⟩
    | false =>
      exact ⟨[], (y, first) :: groups, rfl, nofun,
        List.forall_mem_cons.mpr ⟨⟨hy, hfirst⟩, hgroups⟩⟩

theorem splitBy_of_all {p : α → Bool} (x : α) {xs : List α} (h : ∀ y ∈ xs, p y = true) :
    (x :: xs).splitBy (fun _ y => p y) = [x :: xs] := by
  refine List.splitBy_of_isChain (List.cons_ne_nil x xs) ?_
  induction xs generalizing x with
  | nil => exact .singleton x
  | cons y ys ih =>
    exact .cons_cons (h y List.mem_cons_self) (ih y fun z hz => h z (List.mem_cons_of_mem y hz))

/-- Cutting the image of a list finds the groups of the list. -/
theorem splitBy_map_of_groups {p : β → Bool} (f : α → β) (x : α) {first : List α}
    {groups : List (α × List α)} (hfirst : ∀ y ∈ first, p (f y) = true)
    (hgroups : ∀ g ∈ groups, p (f g.1) = false ∧ ∀ y ∈ g.2, p (f y) = true) :
    ((x :: (first ++ groups.flatMap fun g => g.1 :: g.2)).map f).splitBy (fun _ y => p y) =
      (x :: first).map f :: groups.map fun g => (g.1 :: g.2).map f := by
  have hall : ∀ y ∈ first.map f, p y = true := List.forall_mem_map.mpr hfirst
  induction groups generalizing x first with
  | nil =>
    rw [List.flatMap_nil, List.append_nil, List.map_cons, splitBy_of_all (f x) hall]
    rfl
  | cons g groups ih =>
    obtain ⟨⟨hhead, htail⟩, hgroups⟩ := List.forall_mem_cons.mp hgroups
    have hrest := ih g.1 htail hgroups (List.forall_mem_map.mpr htail)
    rw [List.map_cons] at hrest
    rw [List.flatMap_cons, List.cons_append, ← List.cons_append, List.map_append, List.map_cons,
      List.map_cons (a := g.1), List.splitBy_append_cons, splitBy_of_all (f x) hall, hrest]
    · rfl
    · exact fun _ _ => hhead

end Groups

namespace Reading

open Level
open Engine (conjunction disjunction)
open Meaning (ofRun ofAlternative ofLine)

variable {ν : Nat → Option Bool}

/-! ## Tokens that say a truth value -/

/-- What tokens say as a phrase of a level, if the clauses in them have truth values. -/
def Says (ν : Nat → Option Bool) (level : Level) (ts : List Token) (v : Option Bool) : Prop :=
  ∃ e, Reads level ts e ∧ e.truth ν = v

/-- Tokens with the truth value they are meant to have. -/
structure Phrase where
  tokens : List Token
  truth : Option Bool

namespace Says

theorem clause (n : Nat) (body : String) : Says ν operand [.clause n body] (ν n) :=
  ⟨_, .clause n body, rfl⟩

theorem bracket {ts : List Token} {v : Option Bool} (h : Says ν disjunction ts v) :
    Says ν operand (.opening :: (ts ++ [.closing])) v := by
  obtain ⟨e, he, hv⟩ := h
  exact ⟨e, .bracket he, hv⟩

theorem ofOperand {ts : List Token} {v : Option Bool} (h : Says ν operand ts v) :
    Says ν comparison ts v := by
  obtain ⟨e, he, hv⟩ := h
  exact ⟨e, .ofOperand he, hv⟩

theorem ofComparison {ts : List Token} {v : Option Bool} (h : Says ν comparison ts v) :
    Says ν negation ts v := by
  obtain ⟨e, he, hv⟩ := h
  exact ⟨e, .ofComparison he, hv⟩

theorem negated {ts : List Token} {v : Option Bool} (h : Says ν negation ts v) :
    Says ν negation (.not :: ts) (v.map Bool.not) := by
  obtain ⟨e, he, rfl⟩ := h
  exact ⟨_, .negated he, rfl⟩

theorem ofNegation {ts : List Token} {v : Option Bool} (h : Says ν negation ts v) :
    Says ν .conjunction ts v := by
  obtain ⟨e, he, hv⟩ := h
  exact ⟨e, .ofNegation he, hv⟩

theorem ofConjunction {ts : List Token} {v : Option Bool} (h : Says ν .conjunction ts v) :
    Says ν .disjunction ts v := by
  obtain ⟨e, he, hv⟩ := h
  exact ⟨e, .ofConjunction he, hv⟩

theorem differ {ts us : List Token} {v w : Option Bool} (hv : Says ν comparison ts v)
    (hw : Says ν operand us w) : Says ν comparison (ts ++ .differs :: us) (exclusive v w) := by
  obtain ⟨e, he, rfl⟩ := hv
  obtain ⟨f, hf, rfl⟩ := hw
  exact ⟨_, .differ he hf, rfl⟩

theorem both {ts us : List Token} {v w : Option Bool} (hv : Says ν .conjunction ts v)
    (hw : Says ν negation us w) : Says ν .conjunction (ts ++ .and :: us) (conjunction v w) := by
  obtain ⟨e, he, rfl⟩ := hv
  obtain ⟨f, hf, rfl⟩ := hw
  exact ⟨_, .both he hf, rfl⟩

theorem either {ts us : List Token} {v w : Option Bool} (hv : Says ν .disjunction ts v)
    (hw : Says ν .conjunction us w) :
    Says ν .disjunction (ts ++ .or :: us) (disjunction v w) := by
  obtain ⟨e, he, rfl⟩ := hv
  obtain ⟨f, hf, rfl⟩ := hw
  exact ⟨_, .either he hf, rfl⟩

/-- **Phrases with an operator before each of them are joined to a first one from the left.** -/
theorem chain {level inner : Level} {op : Token} {join : Option Bool → Option Bool → Option Bool}
    (step : ∀ {ts us v w}, Says ν level ts v → Says ν inner us w →
      Says ν level (ts ++ op :: us) (join v w))
    {ts : List Token} {v : Option Bool} (h : Says ν level ts v) {ps : List Phrase}
    (hps : ∀ p ∈ ps, Says ν inner p.tokens p.truth) :
    Says ν level (ts ++ ps.flatMap fun p => op :: p.tokens) ((ps.map (·.truth)).foldl join v) := by
  induction ps generalizing ts v with
  | nil => simpa using h
  | cons p ps ih =>
    obtain ⟨hp, hps⟩ := List.forall_mem_cons.mp hps
    have h := ih (step h hp) hps
    rwa [List.append_assoc] at h

end Says

/-! ## Lines -/

/-- How a joiner is written. -/
def joinerTokens : Connective → List Token
  | .and => [.and]
  | .or => [.or]
  | .xor => [.differs]
  | .not => [.and, .not]

/-- Trees with something before them, each with its joiner. -/
def following (line : List (Connective × Phrase)) : List Token :=
  line.flatMap fun x => joinerTokens x.1 ++ x.2.tokens

/-- A tree without its tokens. -/
def valued (x : Connective × Phrase) : Connective × Option Bool := (x.1, x.2.truth)

/-- The truth values of a line. -/
def truths (line : List (Connective × Phrase)) : List (Connective × Option Bool) := line.map valued

theorem following_append (line others : List (Connective × Phrase)) :
    following (line ++ others) = following line ++ following others :=
  List.flatMap_append

/-- The `NOT` before a run, without the `AND`. -/
def notTokens (c : Connective) : List Token := if c = .not then [.not] else []

/-- The tokens of a run: its own `NOT`, its first tree, the others. -/
def runTokens (x : Connective × Phrase) (rest : List (Connective × Phrase)) : List Token :=
  notTokens x.1 ++ (x.2.tokens ++ following rest)

/-- **A run is read as it is meant.** -/
theorem says_run {x : Connective × Phrase} (hx : Says ν operand x.2.tokens x.2.truth)
    {rest : List (Connective × Phrase)}
    (hrest : ∀ y ∈ rest, y.1 = .xor ∧ Says ν operand y.2.tokens y.2.truth) :
    Says ν negation (runTokens x rest) (ofRun (truths (x :: rest))) := by
  obtain ⟨c, p⟩ := x
  have hline : following rest = (rest.map (·.2)).flatMap fun q => .differs :: q.tokens := by
    rw [following, List.flatMap_map]
    refine List.flatMap_congr fun y hy => ?_
    rw [(hrest y hy).1]
    rfl
  have hphrases : ∀ q ∈ rest.map (·.2), Says ν operand q.tokens q.truth :=
    List.forall_mem_map.mpr fun y hy => (hrest y hy).2
  have hcombined := (Says.chain Says.differ hx.ofOperand hphrases).ofComparison
  rw [← hline, List.map_map] at hcombined
  have hvalues : (truths rest).map (·.2) = rest.map fun y => y.2.truth := by
    rw [truths, List.map_map]
    rfl
  simp only [runTokens, notTokens, truths, List.map_cons, valued, ofRun]
  rw [← truths, hvalues]
  by_cases hc : c = .not
  · rw [if_pos hc, if_pos hc]
    exact hcombined.negated
  · rw [if_neg hc, if_neg hc]
    exact hcombined

/-- Groups of trees are written as phrases with an operator before each. -/
theorem following_groups (op : Token)
    {groups : List ((Connective × Phrase) × List (Connective × Phrase))}
    (phrase : (Connective × Phrase) × List (Connective × Phrase) → Phrase)
    (hgroups : ∀ g ∈ groups, following (g.1 :: g.2) = op :: (phrase g).tokens) :
    following (groups.flatMap fun g => g.1 :: g.2) =
      (groups.map phrase).flatMap fun p => op :: p.tokens := by
  rw [following, List.flatMap_assoc, List.flatMap_map]
  exact List.flatMap_congr hgroups

/-- A run behind another one is written with `AND`, and with its own `NOT`. -/
theorem following_run {x : Connective × Phrase} (hor : x.1 ≠ .or) (hxor : x.1 ≠ .xor)
    (rest : List (Connective × Phrase)) : following (x :: rest) = .and :: runTokens x rest := by
  obtain ⟨c, p⟩ := x
  cases c with
  | and => rfl
  | or => exact absurd rfl hor
  | xor => exact absurd rfl hxor
  | not => rfl

theorem conjunction_true (v : Option Bool) : conjunction (some true) v = v := by
  match v with
  | none => rfl
  | some true => rfl
  | some false => rfl

theorem disjunction_false (v : Option Bool) : disjunction (some false) v = v := by
  match v with
  | none => rfl
  | some true => rfl
  | some false => rfl

/-- **An alternative is read as it is meant.**  Its first tree has no `NOT` of its own. -/
theorem says_alternative {x : Connective × Phrase} (hx : Says ν operand x.2.tokens x.2.truth)
    (hfirst : x.1 ≠ .not) {rest : List (Connective × Phrase)}
    (hrest : ∀ y ∈ rest, y.1 ≠ .or ∧ Says ν operand y.2.tokens y.2.truth) :
    Says ν .conjunction (x.2.tokens ++ following rest) (ofAlternative (truths (x :: rest))) := by
  obtain ⟨first, groups, rfl, hrun, hgroups⟩ := exists_groups (fun y => y.1 == .xor) rest
  have hcut : Meaning.runs (truths (x :: (first ++ groups.flatMap fun g => g.1 :: g.2))) =
      truths (x :: first) :: groups.map fun g => truths (g.1 :: g.2) :=
    splitBy_map_of_groups (p := fun y : Connective × Option Bool => y.1 == .xor) valued x hrun
      hgroups
  have hgroup : ∀ g ∈ groups, ∀ y ∈ g.1 :: g.2, y.1 ≠ .or ∧ Says ν operand y.2.tokens y.2.truth :=
    fun g hg y hy => hrest y (List.mem_append_right _ (List.mem_flatMap.mpr ⟨g, hg, hy⟩))
  -- The first run, which has no `NOT` before it.
  have hhead : Says ν negation (x.2.tokens ++ following first) (ofRun (truths (x :: first))) := by
    have h := says_run hx fun y hy =>
      ⟨eq_of_beq (hrun y hy), (hrest y (List.mem_append_left _ hy)).2⟩
    rwa [runTokens, notTokens, if_neg hfirst, List.nil_append] at h
  -- The others.
  let phrase : (Connective × Phrase) × List (Connective × Phrase) → Phrase :=
    fun g => ⟨runTokens g.1 g.2, ofRun (truths (g.1 :: g.2))⟩
  have hphrases : ∀ p ∈ groups.map phrase, Says ν negation p.tokens p.truth := by
    intro p hp
    obtain ⟨g, hg, rfl⟩ := List.mem_map.mp hp
    refine says_run (hgroup g hg g.1 List.mem_cons_self).2 fun y hy => ?_
    exact ⟨eq_of_beq ((hgroups g hg).2 y hy), (hgroup g hg y (List.mem_cons_of_mem _ hy)).2⟩
  have htokens := following_groups .and phrase fun g hg =>
    following_run (hgroup g hg g.1 List.mem_cons_self).1 (ne_of_beq_false (hgroups g hg).1) g.2
  have h := Says.chain Says.both hhead.ofNegation hphrases
  rw [← htokens, List.append_assoc, ← following_append, List.map_map] at h
  rw [ofAlternative, hcut, List.map_cons, List.foldl_cons, conjunction_true, List.map_map]
  exact h

/-- **A line is read as it is meant.** -/
theorem says_line {x : Connective × Phrase} {rest : List (Connective × Phrase)}
    (hline : ∀ y ∈ x :: rest, Says ν operand y.2.tokens y.2.truth) :
    Says ν .disjunction (x.2.tokens ++ following rest) (ofLine (truths (x :: rest))) := by
  obtain ⟨first, groups, rfl, halternative, hgroups⟩ := exists_groups (fun y => y.1 != .or) rest
  obtain ⟨hx, hrest⟩ := List.forall_mem_cons.mp hline
  have hcut : Meaning.alternatives
      (truths ((.and, x.2) :: (first ++ groups.flatMap fun g => g.1 :: g.2))) =
      truths ((.and, x.2) :: first) :: groups.map fun g => truths (g.1 :: g.2) :=
    splitBy_map_of_groups (p := fun y : Connective × Option Bool => y.1 != .or) valued (.and, x.2)
      halternative hgroups
  have hgroup : ∀ g ∈ groups, ∀ y ∈ g.1 :: g.2, Says ν operand y.2.tokens y.2.truth :=
    fun g hg y hy => hrest y (List.mem_append_right _ (List.mem_flatMap.mpr ⟨g, hg, hy⟩))
  have hor : ∀ g ∈ groups, g.1.1 = .or := fun g hg => by simpa using (hgroups g hg).1
  have hhead : Says ν .conjunction (x.2.tokens ++ following first)
      (ofAlternative (truths ((.and, x.2) :: first))) :=
    says_alternative (x := (.and, x.2)) hx nofun fun y hy =>
      ⟨bne_iff_ne.mp (halternative y hy), hrest y (List.mem_append_left _ hy)⟩
  let phrase : (Connective × Phrase) × List (Connective × Phrase) → Phrase :=
    fun g => ⟨g.1.2.tokens ++ following g.2, ofAlternative (truths (g.1 :: g.2))⟩
  have hphrases : ∀ p ∈ groups.map phrase, Says ν .conjunction p.tokens p.truth := by
    intro p hp
    obtain ⟨g, hg, rfl⟩ := List.mem_map.mp hp
    refine says_alternative (hgroup g hg g.1 List.mem_cons_self) ?_ fun y hy => ?_
    · rw [hor g hg]
      nofun
    · exact ⟨bne_iff_ne.mp ((hgroups g hg).2 y hy), hgroup g hg y (List.mem_cons_of_mem _ hy)⟩
  have htokens := following_groups .or phrase fun g hg => by
    rw [following, List.flatMap_cons, hor g hg]
    rfl
  have h := Says.chain Says.either hhead.ofConjunction hphrases
  rw [← htokens, List.append_assoc, ← following_append, List.map_map] at h
  have hmeaning : ofLine (truths (x :: (first ++ groups.flatMap fun g => g.1 :: g.2))) =
      ((Meaning.alternatives
        (truths ((.and, x.2) :: (first ++ groups.flatMap fun g => g.1 :: g.2)))).map
          ofAlternative).foldl disjunction (some false) := rfl
  rw [hmeaning, hcut, List.map_cons, List.foldl_cons, disjunction_false, List.map_map]
  exact h

end Reading

end FilterStore
