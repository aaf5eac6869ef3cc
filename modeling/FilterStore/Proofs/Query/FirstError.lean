import FilterStore.Proofs.Query.Forest

/-!
# The first error of a filter

The pass over a filter stops at the first entry it cannot use, and reports that entry.  Behind the
last entry there is one thing left that can be wrong: groups are still open, and that is reported at
the end of the filter.

To say this one needs to know where the pass *stands* in front of an entry: at which position,
whether a group has just been opened, and how many are open.  An entry moves the pass on or is
refused, and how it does is told by where the pass stands and by the entry (`Standing.enter`).  What
is written for the entries before plays no part, nor does anything behind it, nor how entries are
joined.  So the pass without its text is a fold, and the pass fails exactly if the fold does, or if
the fold ends with groups open (`compileFrom_eq_error_iff`).

A fold that fails has gone through all entries before the one it fails at.  So a shorter filter can
only have left groups open, and whatever stands behind the refused entry the error is the same.
-/

namespace FilterStore

/-! ## Where an error is -/

namespace Error

/-- The position that an error carries; an unknown name carries none. -/
def position? : Error → Option Nat
  | unknownOperator i _ => some i
  | invalidOperand i _ _ => some i
  | unsupportedEntry i _ => some i
  | unencodable (.field i _) _ => some i
  | unencodable (.entry i _) _ => some i
  | _ => none

/-- An error that says that groups are left open. -/
def LeavesOpen (e : Error) : Prop := ∃ i groups, e = .unsupportedEntry i (.leftOpen groups)

/-- An error of the entry at a position: it carries no other position, and it is not about groups
that are left open. -/
structure At (i : Nat) (e : Error) : Prop where
  position : ∀ j, e.position? = some j → j = i
  own : ¬ e.LeavesOpen

end Error

/-- What fails at a position if it fails. -/
def FailsAt {α : Type} (i : Nat) (x : Except Error α) : Prop := ∀ e, x = .error e → e.At i

namespace FailsAt

variable {α β : Type} {i : Nat}

theorem ok (a : α) : FailsAt i (.ok a) := fun _ h => nomatch h

theorem error {e : Error} (h : e.At i) : FailsAt i (.error e : Except Error α) := by
  rintro _ ⟨⟩
  exact h

theorem bind {x : Except Error α} {f : α → Except Error β} (hx : FailsAt i x)
    (hf : ∀ a, FailsAt i (f a)) : FailsAt i (x >>= f) := by
  intro e h
  rcases bind_eq_error_iff.mp h with h | ⟨a, -, h⟩
  · exact hx e h
  · exact hf a e h

theorem map {x : Except Error α} (f : α → β) (hx : FailsAt i x) : FailsAt i (x.map f) :=
  fun e h => hx e (map_eq_error_iff.mp h)

end FailsAt

/-! ## Errors of entries -/

/-- A fault of an entry, other than groups left open behind it. -/
theorem Error.at_unsupportedEntry {i : Nat} {fault : EntryFault}
    (h : ∀ groups, fault ≠ .leftOpen groups) : (Error.unsupportedEntry i fault).At i where
  position _ h := (Option.some.inj h).symm
  own := by
    rintro ⟨_, groups, ⟨⟩⟩
    exact h groups rfl

theorem RawClause.failsAt_check (raw : RawClause) (i : Nat) : FailsAt i (raw.check i) := by
  unfold check
  simp only
  split
  · exact .error (Error.at_unsupportedEntry nofun)
  · split
    · exact .ok ()
    · exact .error (Error.at_unsupportedEntry nofun)

namespace Clause

theorem failsAt_located {α : Type} (i : Nat) (column : String) (x : Except Unencodable α) :
    FailsAt i (located i column x) := by
  cases x with
  | ok a => exact .ok a
  | error cause => exact .error ⟨fun _ h => (Option.some.inj h).symm, nofun⟩

namespace Context

variable (x : Context) (operator : String)

theorem failsAt_invalid {α : Type} (fault : OperandFault) :
    FailsAt x.index (x.invalid operator fault : Except Error α) :=
  .error ⟨fun _ h => (Option.some.inj h).symm, nofun⟩

theorem failsAt_listCells (operand : Option Operand) :
    FailsAt x.index (x.listCells operator operand) := by
  unfold listCells
  split
  · exact x.failsAt_invalid operator _
  · exact x.failsAt_invalid operator _
  · exact failsAt_located x.index x.column _
  · exact .ok _
  · exact (failsAt_located x.index x.column _).map _

theorem failsAt_someCells (operand : Option Operand) :
    FailsAt x.index (x.someCells operator operand) := by
  refine (x.failsAt_listCells operator operand).bind fun cells => ?_
  split
  · exact x.failsAt_invalid operator _
  · exact .ok cells

theorem failsAt_between (operand : Option Operand) :
    FailsAt x.index (x.between operator operand) := by
  refine (x.failsAt_listCells operator operand).bind fun cells => ?_
  split
  · exact .ok _
  · exact x.failsAt_invalid operator _

theorem failsAt_member (operand : Option Operand) :
    FailsAt x.index (x.member operator operand) := by
  unfold member
  split
  · exact (RawClause.failsAt_check _ x.index).bind fun _ => .ok _
  · exact (x.failsAt_someCells operator _).bind fun _ => .ok _

theorem failsAt_all (operand : Option Operand) : FailsAt x.index (x.all operator operand) := by
  unfold all
  split
  · exact x.failsAt_invalid operator _
  · exact (x.failsAt_someCells operator _).bind fun _ => .ok _

theorem failsAt_single (operand : Option Operand) :
    FailsAt x.index (x.single operator operand) := by
  unfold single
  split
  · exact x.failsAt_invalid operator _
  · exact (RawClause.failsAt_check _ x.index).bind fun _ => .ok _
  · exact x.failsAt_invalid operator _
  · exact (failsAt_located x.index x.column _).bind fun _ => .ok _

theorem failsAt_rows (operand : Option Operand) : FailsAt x.index (x.rows operator operand) := by
  unfold rows
  split
  · exact (RawClause.failsAt_check _ x.index).bind fun _ => .ok _
  · exact x.failsAt_invalid operator _

end Context

theorem failsAt_condition (x : Context) (o : Operator) (operand : Option Operand) :
    FailsAt x.index (condition x o operand) := by
  cases o with
  | hasRows | hasNoRows => exact x.failsAt_rows _ operand
  | isNull | notNull => exact .ok _
  | between | notBetween => exact x.failsAt_between _ operand
  | isIn | any | notIn => exact x.failsAt_member _ operand
  | all => exact x.failsAt_all _ operand
  | compare _ | like | notLike | regexp => exact x.failsAt_single _ operand

end Clause

/-- **Whatever is wrong with a clause is reported at its position.** -/
theorem ColumnClause.failsAt_compile (r : Registry) (t : TableDefinition) (i : Nat)
    (c : ColumnClause) : FailsAt i (c.compile r t i) := by
  unfold compile
  split
  · exact .error ⟨fun _ h => (Option.some.inj h).symm, nofun⟩
  · simp only
    split
    · exact .error ⟨nofun, nofun⟩
    · exact Clause.failsAt_condition ⟨i, _, _⟩ _ _

/-! ## Where the pass stands -/

namespace Condition

/-- Where the pass stands in front of an entry. -/
structure Standing where
  index : Nat
  /-- A group has just been opened, or nothing has been written yet. -/
  atStart : Bool
  /-- How many groups are open. -/
  depth : Nat

/-- Where the pass stands in front of a filter. -/
def Standing.start : Standing := ⟨0, true, 0⟩

variable (r : Registry) (t : TableDefinition)

/-- Where the pass stands behind an entry, unless the entry is refused. -/
def Standing.enter (s : Standing) : Entry → Except Error Standing
  | .opening _ => .ok ⟨s.index + 1, true, s.depth + 1⟩
  | .closing =>
    if s.depth = 0 then .error (.unsupportedEntry s.index .closeWithoutOpen)
    else if s.atStart then .error (.unsupportedEntry s.index .emptyGroup)
    else .ok ⟨s.index + 1, false, s.depth - 1⟩
  | .raw raw => (raw.check s.index).map fun _ => ⟨s.index + 1, false, s.depth⟩
  | .column c => (c.compile r t s.index).map fun _ => ⟨s.index + 1, false, s.depth⟩

/-- Where the pass stands behind some entries, unless one of them is refused. -/
def survey (s : Standing) (es : List Entry) : Except Error Standing :=
  es.foldlM (Standing.enter r t) s

theorem Standing.failsAt_enter (s : Standing) (e : Entry) : FailsAt s.index (s.enter r t e) := by
  cases e with
  | opening c => exact .ok _
  | closing =>
    rw [enter]
    split
    · exact .error (Error.at_unsupportedEntry nofun)
    · split
      · exact .error (Error.at_unsupportedEntry nofun)
      · exact .ok _
  | raw raw =>
    rw [enter]
    exact (raw.failsAt_check s.index).map _
  | column c =>
    rw [enter]
    exact (c.failsAt_compile r t s.index).map _

variable {r t} {s s' : Standing} {e : Entry} {es : List Entry} {error : Error}
  {joining : Connective}

/-- The pass fails at its first entry, or behind it. -/
theorem compileFrom_cons_eq_error_iff :
    compileFrom r t joining s.index s.atStart s.depth (e :: es) = .error error ↔
      s.enter r t e = .error error ∨ ∃ s', s.enter r t e = .ok s' ∧
        compileFrom r t joining s'.index s'.atStart s'.depth es = .error error := by
  have leaf : ∀ l : Leaf, l.entry = e →
      s.enter r t e = (l.compile r t s.index).map (fun _ => ⟨s.index + 1, false, s.depth⟩) →
      (compileFrom r t joining s.index s.atStart s.depth (e :: es) = .error error ↔
        s.enter r t e = .error error ∨ ∃ s', s.enter r t e = .ok s' ∧
          compileFrom r t joining s'.index s'.atStart s'.depth es = .error error) := by
    rintro l rfl entered
    rw [Forest.compileFrom_leaf, entered]
    cases l.compile r t s.index with
    | error x => simp [bind, Except.bind, Except.map]
    | ok body => simp [bind_eq_error_iff, Except.map, ok_bind]
  cases e with
  | raw raw =>
    refine leaf (.raw raw) rfl ?_
    rw [Standing.enter, Leaf.compile]
    cases raw.check s.index <;> rfl
  | column c => exact leaf (.column c) rfl rfl
  | opening c => simp [compileFrom, Standing.enter, bind_eq_error_iff]
  | closing =>
    rw [compileFrom, Standing.enter]
    split
    · simp
    · split
      · simp
      · simp [bind_eq_error_iff]

/-- **The pass fails exactly if it is refused an entry, or comes to the end with groups open.** -/
theorem compileFrom_eq_error_iff :
    compileFrom r t joining s.index s.atStart s.depth es = .error error ↔
      survey r t s es = .error error ∨ ∃ s', survey r t s es = .ok s' ∧ s'.depth ≠ 0 ∧
        error = .unsupportedEntry s'.index (.leftOpen s'.depth) := by
  induction es generalizing s with
  | nil =>
    have stays : survey r t s [] = .ok s := rfl
    by_cases closed : s.depth = 0
    · simp [compileFrom, stays, closed]
    · simp [compileFrom, stays, closed, eq_comm]
  | cons e es ih =>
    have step : survey r t s (e :: es) = s.enter r t e >>= fun s' => survey r t s' es := rfl
    rw [compileFrom_cons_eq_error_iff, step]
    cases s.enter r t e with
    | error x => simp [bind, Except.bind]
    | ok s' => simp [ih, ok_bind]

/-! ## Entries that are gone through -/

theorem survey_append (s : Standing) (es rest : List Entry) :
    survey r t s (es ++ rest) = survey r t s es >>= fun s' => survey r t s' rest :=
  List.foldlM_append

/-- Entries that are gone through are gone through one after the other. -/
theorem exists_survey_of_append {rest : List Entry} (h : survey r t s (es ++ rest) = .ok s') :
    ∃ s₁, survey r t s es = .ok s₁ := by
  rw [survey_append] at h
  obtain ⟨s₁, through, -⟩ := bind_eq_ok_iff.mp h
  exact ⟨s₁, through⟩

/-- **The pass is refused at one entry, behind entries that it has gone through.** -/
theorem exists_refused_of_survey (h : survey r t s es = .error error) :
    ∃ before e after s', es = before ++ e :: after ∧ survey r t s before = .ok s' ∧
      s'.enter r t e = .error error := by
  induction es generalizing s with
  | nil => cases h
  | cons e es ih =>
    rcases bind_eq_error_iff.mp h with refused | ⟨s₁, entered, h⟩
    · exact ⟨[], e, es, s, rfl, rfl, refused⟩
    · obtain ⟨before, refusedEntry, after, s', rfl, through, refused⟩ := ih h
      refine ⟨e :: before, refusedEntry, after, s', rfl, ?_, refused⟩
      exact bind_eq_ok_iff.mpr ⟨s₁, entered, through⟩

end Condition

/-! ## Brackets -/

/-- Whether an entry opens a group. -/
def Entry.isOpening : Entry → Bool
  | .opening _ => true
  | _ => false

/-- Whether an entry closes a group. -/
def Entry.isClosing : Entry → Bool
  | .closing => true
  | _ => false

/-- How many groups a filter opens and does not close. -/
def unclosed (filter : List Entry) : Nat :=
  filter.countP Entry.isOpening - filter.countP Entry.isClosing

namespace Condition

variable {r : Registry} {t : TableDefinition} {s s' : Standing} {e : Entry} {es : List Entry}

/-- Entries between two places where the pass stands. -/
structure Between (s : Standing) (es : List Entry) (s' : Standing) : Prop where
  index : s'.index = s.index + es.length
  depth : s'.depth + es.countP Entry.isClosing = s.depth + es.countP Entry.isOpening

theorem Standing.between_of_enter (h : s.enter r t e = .ok s') : Between s [e] s' := by
  cases e with
  | opening c =>
    cases h
    exact ⟨rfl, rfl⟩
  | closing =>
    rw [enter] at h
    split at h
    · cases h
    · rename_i open_
      split at h
      · cases h
      · cases h
        exact ⟨rfl, Nat.succ_pred_eq_of_pos (Nat.pos_of_ne_zero open_)⟩
  | raw raw =>
    rw [enter] at h
    obtain ⟨_, -, rfl⟩ := map_eq_ok_iff.mp h
    exact ⟨rfl, rfl⟩
  | column c =>
    rw [enter] at h
    obtain ⟨_, -, rfl⟩ := map_eq_ok_iff.mp h
    exact ⟨rfl, rfl⟩

/-- **Behind entries that it has gone through the pass stands as many positions further, inside as
many groups as they leave open.** -/
theorem between_of_survey (h : survey r t s es = .ok s') : Between s es s' := by
  induction es generalizing s with
  | nil =>
    cases h
    exact ⟨rfl, rfl⟩
  | cons e es ih =>
    obtain ⟨s₁, entered, h⟩ := bind_eq_ok_iff.mp h
    have first := Standing.between_of_enter entered
    have rest := ih h
    have index := first.index
    have depth := first.depth
    rw [List.countP_singleton, List.countP_singleton] at depth
    rw [List.length_singleton] at index
    constructor
    · rw [rest.index, index, List.length_cons]
      omega
    · rw [List.countP_cons, List.countP_cons]
      have := rest.depth
      omega

end Condition

/-! ## The first error -/

namespace Registry

open Condition (Standing survey)

variable {r : Registry} {table : String} {t : TableDefinition} {filter : List Entry}
  {connective : Option Connective} {e : Error}

/-- A filter on a registered table is refused for an entry, or for the groups it leaves open. -/
theorem compileWhere_eq_error_iff (ht : r.table? table = some t) :
    r.compileWhere table filter connective = .error e ↔
      survey r t .start filter = .error e ∨ ∃ s, survey r t .start filter = .ok s ∧ s.depth ≠ 0 ∧
        e = .unsupportedEntry s.index (.leftOpen s.depth) := by
  have found : r.target table = .ok t := target_eq_ok_iff.mpr ht
  have pass : Condition.compile r t (connective.getD .and) filter = .error e ↔ _ :=
    Condition.compileFrom_eq_error_iff (s := .start)
  rw [← pass, compileWhere, found, ok_bind]
  cases filter with
  | nil => simp [Condition.compile, Condition.compileFrom]
  | cons first rest => exact map_eq_error_iff

/-- Entries that are gone through can only leave groups open. -/
theorem leavesOpen_of_survey (ht : r.table? table = some t) {s : Standing}
    (through : survey r t .start filter = .ok s)
    (h : r.compileWhere table filter connective = .error e) : e.LeavesOpen := by
  rcases (compileWhere_eq_error_iff ht).mp h with refused | ⟨s', -, -, rfl⟩
  · cases through.symm.trans refused
  · exact ⟨_, _, rfl⟩

/-- **The first error wins, and says where it is.**  A filter that is refused on a registered table
either has no fault but groups that it leaves open, and then the error stands at its end and counts
them; or there is an entry at which every filter that starts with the same entries is refused for
the same reason, with no other reason before it than groups left open, and the error carries the
position of this entry if it carries any. -/
theorem first_error (known : r.tableExists table = true)
    (h : r.compileWhere table filter connective = .error e) :
    (e = .unsupportedEntry filter.length (.leftOpen (unclosed filter)) ∧ 0 < unclosed filter ∧
        ∀ n e', r.compileWhere table (filter.take n) connective = .error e' → e'.LeavesOpen) ∨
      ∃ i < filter.length, e.At i ∧
        (∀ n ≤ i, ∀ e', r.compileWhere table (filter.take n) connective = .error e' →
          e'.LeavesOpen) ∧
        ∀ other : List Entry, other.take (i + 1) = filter.take (i + 1) → ∀ joining,
          r.compileWhere table other joining = .error e := by
  rw [tableExists, Option.isSome_iff_exists] at known
  obtain ⟨t, ht⟩ := known
  rcases (compileWhere_eq_error_iff ht).mp h with refused | ⟨s, through, open_, rfl⟩
  · obtain ⟨before, entry, after, s, rfl, through, refused⟩ :=
      Condition.exists_refused_of_survey refused
    have between := Condition.between_of_survey through
    have index : s.index = before.length := by rw [between.index]; exact Nat.zero_add _
    have located : e.At before.length := index ▸ Standing.failsAt_enter r t s entry e refused
    refine .inr
      ⟨before.length, by simp, located, fun n hn e' h' => ?_, fun other same joining => ?_⟩
    · rw [List.take_append_of_le_length hn] at h'
      obtain ⟨s', through'⟩ : ∃ s', survey r t .start (before.take n) = .ok s' := by
        rw [← List.take_append_drop n before] at through
        exact Condition.exists_survey_of_append through
      exact leavesOpen_of_survey ht through' h'
    · -- The other filter goes through the same entries and comes to the same one.
      have starts : other = before ++ entry :: other.drop (before.length + 1) := by
        have shared : (before ++ entry :: after).take (before.length + 1) = before ++ [entry] := by
          rw [List.take_length_add_append, List.take_succ_cons, List.take_zero]
        rw [List.append_cons, ← shared, ← same, List.take_append_drop]
      refine (compileWhere_eq_error_iff ht).mpr (.inl ?_)
      rw [starts, Condition.survey_append, through, ok_bind]
      exact bind_eq_error_iff.mpr (.inl refused)
  · have between := Condition.between_of_survey through
    have index : s.index = filter.length := by rw [between.index]; exact Nat.zero_add _
    have depth : s.depth = unclosed filter := by
      have brackets : s.depth + filter.countP Entry.isClosing =
          0 + filter.countP Entry.isOpening := between.depth
      unfold unclosed
      omega
    refine .inl ⟨by rw [index, depth], by omega, fun n e' h' => ?_⟩
    obtain ⟨s', through'⟩ : ∃ s', survey r t .start (filter.take n) = .ok s' := by
      rw [← List.take_append_drop n filter] at through
      exact Condition.exists_survey_of_append through
    exact leavesOpen_of_survey ht through' h'

/-- A filter with much wrong in it: an operator that there is not, on a column that there is not, a
raw clause without text, an empty group, a bracket too many. -/
def faulty : List Entry :=
  [.opening none, .column ⟨"age", ">", some (.value (.integer 18)), none⟩,
    .column ⟨"aeg", "~", none, none⟩, .raw ⟨" ", []⟩, .opening none, .closing, .closing, .closing]

/-- A filter that opens two groups and closes none. -/
def unfinished : List Entry :=
  [.opening none, .column ⟨"city", "=", some (.value (.text "Berlin")), none⟩, .opening (some .or)]

theorem first_error_faulty :
    ofUsers.tableExists "user" = true ∧
      ofUsers.compileWhere "user" faulty none = .error (.unknownOperator 2 "~") ∧
      (∀ other : List Entry, other.take 3 = faulty.take 3 → ∀ joining,
        ofUsers.compileWhere "user" other joining = .error (.unknownOperator 2 "~")) ∧
      ofUsers.compileWhere "user" unfinished none = .error (.unsupportedEntry 3 (.leftOpen 2)) ∧
      unclosed unfinished = 2 ∧
      ∀ n e, ofUsers.compileWhere "user" (unfinished.take n) none = .error e → e.LeavesOpen := by
  have refused : ofUsers.compileWhere "user" faulty none = .error (.unknownOperator 2 "~") := rfl
  have open_ : ofUsers.compileWhere "user" unfinished none =
      .error (.unsupportedEntry 3 (.leftOpen 2)) := rfl
  have known : ofUsers.tableExists "user" = true := rfl
  refine ⟨known, refused, ?_, open_, rfl, ?_⟩
  · rcases first_error known refused with ended | ⟨i, -, located, -, same⟩
    · cases ended.1
    · obtain rfl := located.position 2 rfl
      exact same
  · rcases first_error known open_ with ended | ⟨i, -, located, -⟩
    · exact ended.2.2
    · exact absurd ⟨3, 2, rfl⟩ located.own

end Registry

end FilterStore
