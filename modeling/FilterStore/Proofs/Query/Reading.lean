import FilterStore.Engine.Operator

/-!
# How SQL reads a condition

A condition that the compiler writes is a line of clauses in parentheses with `AND`, `OR`, `NOT` and
`<>` between them and brackets around some of them.  SQL reads it by precedence: `OR` is the loosest,
then come `AND`, then `NOT` before its operand, and `<>` binds tightest; operators on two operands
are read from the left.

This module says what reading is, without regard to the compiler.  A text is first cut into tokens.
An opening parenthesis with another one behind it is a bracket; one with anything else behind it
starts a clause, which ends at the parenthesis that closes it, so a clause may have parentheses of
its own.  Clauses are numbered from left to right.  Then the tokens are read by a grammar with one
level for each strength of binding.

## Why there is one reading only

A machine reads the tokens from left to right and keeps, for each open bracket, what has been read
before the last `OR`, what has been read before the last `AND`, how many `NOT`s wait, and the
comparison in progress.  What it makes of the tokens of a phrase is what the grammar says,
`run_of_reads`.  It is a function, so there is no second reading.
-/

namespace FilterStore.Reading

/-! ## Tokens -/

/-- A token of a condition. -/
inductive Token
  | opening
  | closing
  | and
  | or
  | not
  | differs
  | clause (n : Nat) (body : String)
  deriving DecidableEq, Repr

/-- Where a text is cut: between tokens, behind an opening parenthesis, or inside a clause, behind
some characters of it and inside some parentheses of its own. -/
inductive Mode
  | outside
  | opened
  | inside (depth : Nat) (read : List Char)

/-- The tokens of a text, the next clause of which has a number. -/
def tokens : Mode → Nat → List Char → Option (List Token)
  | .outside, _, [] => some []
  | .outside, n, ' ' :: cs => tokens .outside n cs
  | .outside, n, '(' :: cs => tokens .opened n cs
  | .outside, n, ')' :: cs => (tokens .outside n cs).map (.closing :: ·)
  | .outside, n, 'A' :: 'N' :: 'D' :: cs => (tokens .outside n cs).map (.and :: ·)
  | .outside, n, 'O' :: 'R' :: cs => (tokens .outside n cs).map (.or :: ·)
  | .outside, n, 'N' :: 'O' :: 'T' :: cs => (tokens .outside n cs).map (.not :: ·)
  | .outside, n, '<' :: '>' :: cs => (tokens .outside n cs).map (.differs :: ·)
  | .outside, _, _ => none
  | .opened, n, '(' :: cs => (tokens .opened n cs).map (.opening :: ·)
  | .opened, _, ')' :: _ => none
  | .opened, n, c :: cs => tokens (.inside 0 [c]) n cs
  | .opened, _, [] => none
  | .inside depth read, n, '(' :: cs => tokens (.inside (depth + 1) (read ++ ['('])) n cs
  | .inside 0 read, n, ')' :: cs =>
    (tokens .outside (n + 1) cs).map (.clause n (String.ofList read) :: ·)
  | .inside (depth + 1) read, n, ')' :: cs => tokens (.inside depth (read ++ [')'])) n cs
  | .inside depth read, n, c :: cs => tokens (.inside depth (read ++ [c])) n cs
  | .inside .., _, [] => none

/-- The tokens of a condition. -/
def tokensOf (sql : String) : Option (List Token) := tokens .outside 0 sql.toList

/-! ## Clauses -/

/-- Characters whose parentheses are matched. -/
inductive Balanced : List Char → Prop
  | nil : Balanced []
  | char {c : Char} {cs : List Char} (hopen : c ≠ '(') (hclose : c ≠ ')') (h : Balanced cs) :
    Balanced (c :: cs)
  | group {inside rest : List Char} (hinside : Balanced inside) (hrest : Balanced rest) :
    Balanced ('(' :: (inside ++ ')' :: rest))

theorem Balanced.append {cs ds : List Char} (hcs : Balanced cs) (hds : Balanced ds) :
    Balanced (cs ++ ds) := by
  induction hcs with
  | nil => exact hds
  | char hopen hclose _ ih => exact .char hopen hclose ih
  | group hinside _ _ ih =>
    rw [List.cons_append, List.append_assoc, List.cons_append]
    exact .group hinside ih

theorem balanced_of_notMem {cs : List Char} (h : '(' ∉ cs ∧ ')' ∉ cs) : Balanced cs := by
  induction cs with
  | nil => exact .nil
  | cons c cs ih =>
    simp only [List.mem_cons, not_or] at h
    obtain ⟨⟨hopen, hopens⟩, hclose, hcloses⟩ := h
    exact .char (Ne.symm hopen) (Ne.symm hclose) (ih ⟨hopens, hcloses⟩)

/-- Matched parentheses leave a clause as deep as it was. -/
theorem tokens_inside {cs : List Char} (h : Balanced cs) (depth : Nat) (read : List Char) (n : Nat)
    (rest : List Char) :
    tokens (.inside depth read) n (cs ++ rest) = tokens (.inside depth (read ++ cs)) n rest := by
  induction h generalizing depth read rest with
  | nil => rw [List.nil_append, List.append_nil]
  | @char c cs hopen hclose _ ih =>
    have hstep : tokens (.inside depth read) n (c :: (cs ++ rest)) =
        tokens (.inside depth (read ++ [c])) n (cs ++ rest) := by
      cases depth with
      | zero => rw [tokens] <;> simp [hopen, hclose]
      | succ depth => rw [tokens] <;> simp [hopen, hclose]
    rw [List.cons_append, hstep, ih, List.append_assoc]
    rfl
  | @group inside others _ _ ihInside ihOthers =>
    rw [List.cons_append, List.append_assoc, List.cons_append, tokens, ihInside, tokens, ihOthers]
    simp only [List.append_assoc, List.cons_append, List.nil_append]

/-- A text that can stand in parentheses as a clause: it does not start with a parenthesis, and its
own parentheses are matched. -/
def IsBody (s : String) : Prop :=
  ∃ c cs, s.toList = c :: cs ∧ c ≠ '(' ∧ c ≠ ')' ∧ Balanced cs

/-- **A clause in parentheses is one token.** -/
theorem tokens_clause {s : String} (h : IsBody s) (n : Nat) (rest : List Char) :
    tokens .outside n ('(' :: (s.toList ++ ')' :: rest)) =
      (tokens .outside (n + 1) rest).map (.clause n s :: ·) := by
  obtain ⟨c, cs, hs, hopen, hclose, hcs⟩ := h
  have hfirst : tokens .opened n (c :: (cs ++ ')' :: rest)) =
      tokens (.inside 0 [c]) n (cs ++ ')' :: rest) := by
    rw [tokens] <;> simpa
  have hread : String.ofList ([c] ++ cs) = s := by
    rw [List.singleton_append, ← hs, String.ofList_toList]
  have hlast : tokens (.inside 0 ([c] ++ cs)) n (')' :: rest) =
      (tokens .outside (n + 1) rest).map (.clause n s :: ·) := by
    simp only [tokens, hread]
  rw [tokens, hs, List.cons_append, hfirst, tokens_inside hcs, hlast]

/-! ## Formulas -/

/-- A condition as it is read. -/
inductive Formula
  | clause (n : Nat) (body : String)
  | negated (e : Formula)
  | both (e f : Formula)
  | either (e f : Formula)
  | differ (e f : Formula)
  deriving DecidableEq, Repr, Inhabited

namespace Formula

/-- The clauses of a formula from left to right. -/
def bodies : Formula → List String
  | clause _ body => [body]
  | negated e => e.bodies
  | both e f => e.bodies ++ f.bodies
  | either e f => e.bodies ++ f.bodies
  | differ e f => e.bodies ++ f.bodies

/-- The cell that the engine makes of a formula whose clauses have truth values.  The operands of
`<>` are conditions, so nothing is converted before they are compared. -/
def cell (ν : Nat → Option Bool) : Formula → Cell
  | clause n _ => Engine.ofTruth (ν n)
  | negated e => Engine.ofTruth ((Engine.truth (e.cell ν)).map Bool.not)
  | both e f => Engine.applyBinary .and .binary .asTheyAre (e.cell ν) (f.cell ν)
  | either e f => Engine.applyBinary .or .binary .asTheyAre (e.cell ν) (f.cell ν)
  | differ e f => Engine.applyBinary .notEqual .binary .asTheyAre (e.cell ν) (f.cell ν)

end Formula

/-! ## The grammar -/

/-- How tightly a phrase is bound, from the loosest on. -/
inductive Level
  | disjunction
  | conjunction
  | negation
  | comparison
  | operand

open Level

/-- What tokens say as a phrase of a level. -/
inductive Reads : Level → List Token → Formula → Prop
  | clause (n : Nat) (body : String) : Reads operand [.clause n body] (.clause n body)
  | bracket {ts : List Token} {e : Formula} (h : Reads disjunction ts e) :
    Reads operand (.opening :: (ts ++ [.closing])) e
  | ofOperand {ts : List Token} {e : Formula} (h : Reads operand ts e) : Reads comparison ts e
  | differ {ts us : List Token} {e f : Formula} (he : Reads comparison ts e)
    (hf : Reads operand us f) : Reads comparison (ts ++ .differs :: us) (.differ e f)
  | ofComparison {ts : List Token} {e : Formula} (h : Reads comparison ts e) : Reads negation ts e
  | negated {ts : List Token} {e : Formula} (h : Reads negation ts e) :
    Reads negation (.not :: ts) (.negated e)
  | ofNegation {ts : List Token} {e : Formula} (h : Reads negation ts e) : Reads conjunction ts e
  | both {ts us : List Token} {e f : Formula} (he : Reads conjunction ts e)
    (hf : Reads negation us f) : Reads conjunction (ts ++ .and :: us) (.both e f)
  | ofConjunction {ts : List Token} {e : Formula} (h : Reads conjunction ts e) :
    Reads disjunction ts e
  | either {ts us : List Token} {e f : Formula} (he : Reads disjunction ts e)
    (hf : Reads conjunction us f) : Reads disjunction (ts ++ .or :: us) (.either e f)

/-- The body that a token has. -/
def Token.body? : Token → Option String
  | clause _ body => some body
  | _ => none

/-- The clauses of a formula are those of its tokens. -/
theorem Reads.bodies {level : Level} {ts : List Token} {e : Formula} (h : Reads level ts e) :
    e.bodies = ts.filterMap Token.body? := by
  induction h with
  | clause n body => rfl
  | bracket _ ih =>
    rw [ih, List.filterMap_cons_none rfl, List.filterMap_append, List.filterMap_cons_none rfl,
      List.filterMap_nil, List.append_nil]
  | ofOperand _ ih => exact ih
  | differ _ _ ihe ihf =>
    rw [List.filterMap_append, List.filterMap_cons_none rfl, ← ihe, ← ihf]
    rfl
  | ofComparison _ ih => exact ih
  | negated _ ih =>
    rw [List.filterMap_cons_none rfl]
    exact ih
  | ofNegation _ ih => exact ih
  | both _ _ ihe ihf =>
    rw [List.filterMap_append, List.filterMap_cons_none rfl, ← ihe, ← ihf]
    rfl
  | ofConjunction _ ih => exact ih
  | either _ _ ihe ihf =>
    rw [List.filterMap_append, List.filterMap_cons_none rfl, ← ihe, ← ihf]
    rfl

/-! ## A machine that reads -/

/-- What has been read inside a bracket: before the last `OR`, before the last `AND`, how many
`NOT`s wait, and the comparison in progress. -/
structure Frame where
  before? : Option Formula
  beside? : Option Formula
  nots : Nat
  compared? : Option Formula

namespace Frame

/-- Nothing has been read. -/
def start : Frame := ⟨none, none, 0, none⟩

/-- Joins what has been read before, if anything has. -/
def joined (join : Formula → Formula → Formula) : Option Formula → Formula → Formula
  | none, e => e
  | some d, e => join d e

/-- Negates a number of times. -/
def negatedBy : Nat → Formula → Formula
  | 0, e => e
  | n + 1, e => negatedBy n (.negated e)

variable (F : Frame)

/-- One more operand. -/
def operand (e : Formula) : Frame := { F with compared? := some (joined .differ F.compared? e) }

def negation : Formula := negatedBy F.nots (F.compared?.getD default)

def conjunction : Formula := joined .both F.beside? F.negation

def disjunction : Formula := joined .either F.before? F.conjunction

end Frame

/-- Reads tokens in the innermost open bracket, which stands inside some others. -/
def run : Frame → List Frame → List Token → Formula
  | F, _, [] => F.disjunction
  | F, outer, .clause n body :: ts => run (F.operand (.clause n body)) outer ts
  | F, outer, .opening :: ts => run .start (F :: outer) ts
  | F, G :: outer, .closing :: ts => run (G.operand F.disjunction) outer ts
  | F, [], .closing :: _ => F.disjunction
  | F, outer, .differs :: ts => run F outer ts
  | F, outer, .not :: ts => run { F with nots := F.nots + 1 } outer ts
  | F, outer, .and :: ts => run ⟨F.before?, some F.conjunction, 0, none⟩ outer ts
  | F, outer, .or :: ts => run ⟨some F.disjunction, none, 0, none⟩ outer ts

namespace Frame

/-- What must not have been read before a phrase of a level. -/
def Ready (F : Frame) : Level → Prop
  | .operand => True
  | .comparison => F.compared? = none
  | .negation => F.compared? = none
  | .conjunction => F.compared? = none ∧ F.nots = 0 ∧ F.beside? = none
  | .disjunction => F = start

/-- What has been read after a phrase of a level. -/
def After (F : Frame) (e : Formula) (F' : Frame) : Level → Prop
  | .operand => F' = F.operand e
  | .comparison => F' = { F with compared? := some e }
  | .negation => F'.before? = F.before? ∧ F'.beside? = F.beside? ∧ F'.negation = negatedBy F.nots e
  | .conjunction => F'.before? = F.before? ∧ F'.conjunction = e
  | .disjunction => F'.disjunction = e

end Frame

/-- **The machine reads a phrase as the grammar does.** -/
theorem run_of_reads {level : Level} {ts : List Token} {e : Formula} (h : Reads level ts e)
    {F : Frame} (hF : F.Ready level) (outer : List Frame) (rest : List Token) :
    ∃ F', run F outer (ts ++ rest) = run F' outer rest ∧ F.After e F' level := by
  induction h generalizing F outer rest with
  | clause n body => exact ⟨_, rfl, rfl⟩
  | @bracket ts e _ ih =>
    obtain ⟨F', hrun, hF'⟩ := ih (F := .start) rfl (F :: outer) (.closing :: rest)
    refine ⟨F.operand e, ?_, rfl⟩
    rw [List.cons_append, List.append_assoc, run, List.singleton_append, hrun, run, hF']
  | ofOperand _ ih =>
    obtain ⟨F', hrun, rfl⟩ := ih trivial outer rest
    refine ⟨_, hrun, ?_⟩
    rw [Frame.After, Frame.operand, show F.compared? = none from hF]
    rfl
  | differ _ _ ihe ihf =>
    obtain ⟨F', hleft, rfl⟩ := ihe hF outer (.differs :: (_ ++ rest))
    obtain ⟨F', hright, rfl⟩ := ihf trivial outer rest
    refine ⟨_, ?_, rfl⟩
    rw [List.append_assoc, List.cons_append, hleft, run, hright]
    rfl
  | ofComparison _ ih =>
    obtain ⟨F', hrun, rfl⟩ := ih hF outer rest
    exact ⟨_, hrun, rfl, rfl, rfl⟩
  | negated _ ih => exact ih (F := { F with nots := F.nots + 1 }) hF outer rest
  | ofNegation _ ih =>
    obtain ⟨hcompared, hnots, hbeside⟩ := hF
    obtain ⟨F', hrun, hbefore, hbeside', hnegation⟩ := ih hcompared outer rest
    refine ⟨F', hrun, hbefore, ?_⟩
    rw [Frame.conjunction, hbeside', hbeside, hnegation, hnots]
    rfl
  | both _ _ ihe ihf =>
    obtain ⟨F₁, hleft, hbefore, hconjunction⟩ := ihe hF outer (.and :: (_ ++ rest))
    obtain ⟨F₂, hright, hbefore', hbeside, hnegation⟩ :=
      ihf (F := ⟨F₁.before?, some F₁.conjunction, 0, none⟩) rfl outer rest
    refine ⟨F₂, ?_, hbefore'.trans hbefore, ?_⟩
    · rw [List.append_assoc, List.cons_append, hleft, run, hright]
    · rw [Frame.conjunction, hbeside, hnegation, hconjunction]
      rfl
  | ofConjunction _ ih =>
    obtain rfl := hF
    obtain ⟨F', hrun, hbefore, hconjunction⟩ :=
      ih (F := .start) ⟨rfl, rfl, rfl⟩ outer rest
    refine ⟨F', hrun, ?_⟩
    rw [Frame.After, Frame.disjunction, hbefore, hconjunction]
    rfl
  | either _ _ ihe ihf =>
    obtain ⟨F₁, hleft, hdisjunction⟩ := ihe hF outer (.or :: (_ ++ rest))
    obtain ⟨F₂, hright, hbefore, hconjunction⟩ :=
      ihf (F := ⟨some F₁.disjunction, none, 0, none⟩) ⟨rfl, rfl, rfl⟩ outer rest
    refine ⟨F₂, ?_, ?_⟩
    · rw [List.append_assoc, List.cons_append, hleft, run, hright]
    · rw [Frame.After, Frame.disjunction, hbefore, hconjunction, hdisjunction]
      rfl

/-- **Tokens have one reading at most.** -/
theorem Reads.unique {ts : List Token} {e f : Formula} (he : Reads disjunction ts e)
    (hf : Reads disjunction ts f) : e = f := by
  have reading : ∀ {d : Formula}, Reads disjunction ts d → run .start [] ts = d := by
    intro d hd
    obtain ⟨F, hrun, hF⟩ := run_of_reads hd (F := .start) rfl [] []
    rw [List.append_nil] at hrun
    exact hrun.trans hF
  exact (reading he).symm.trans (reading hf)

end FilterStore.Reading
