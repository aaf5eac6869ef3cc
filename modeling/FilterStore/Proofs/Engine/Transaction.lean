import FilterStore.Proofs.Engine.Database
import FilterStore.Proofs.Outcome

/-!
# The engine's transactions

Beginning, committing and rolling back are one equation each.  A transaction is begun with the
database there is, it is not committed while rows are owed, and rolling back returns to what it was
begun with.
-/

namespace FilterStore.Engine.Step

theorem run_requireSettled (later : Bool) (c : Connection) :
    (requireSettled later).run c =
      if 0 < (if later then c.owedLater else c.owedNow) then (.error (.ofFault .foreignKey), c)
      else (.ok (), c) := by
  have run_get : (owed later).run c = (.ok (if later then c.owedLater else c.owedNow), c) := rfl
  unfold requireSettled
  rw [run_bind, run_get]
  generalize (if later then c.owedLater else c.owedNow) = n
  by_cases owing : 0 < n
  · simp only [owing, if_true]
    rfl
  · simp only [owing, if_false]
    rfl

theorem run_begin (c : Connection) :
    (control .begin).run c = match c.transaction with
      | none =>
        (.ok (), { c with
          transaction := some { start := c.database, byMark := false, marks := [] } })
      | some _ => (.error (.ofFault .nestedTransaction), c) := by
  rcases c with ⟨_, _, _, _, _, _, _ | t⟩ <;> rfl

theorem run_openTransaction (ending : String) (c : Connection) :
    (openTransaction ending).run c = match c.transaction with
      | none => (.error (.ofFault (.noTransaction ending)), c)
      | some t => (.ok t, c) := by
  rcases c with ⟨_, _, _, _, _, _, _ | t⟩ <;> rfl

theorem run_commit (c : Connection) :
    (control .commit).run c = match c.transaction with
      | none => (.error (.ofFault (.noTransaction "commit")), c)
      | some _ =>
        if 0 < c.owedLater then (.error (.ofFault .foreignKey), c)
        else (.ok (), { c with transaction := none, owedLater := 0 }) := by
  unfold control commit
  simp only [run_bind, run_openTransaction, run_requireSettled, if_true]
  rcases c.transaction with _ | t
  · rfl
  by_cases owing : 0 < c.owedLater
  · simp only [owing, if_true]
  · simp only [owing, if_false]
    rfl

theorem run_rollback (c : Connection) :
    (control .rollback).run c = match c.transaction with
      | none => (.error (.ofFault (.noTransaction "rollback")), c)
      | some t =>
        (.ok (), { c with database := t.start, transaction := none, owedLater := 0 }) := by
  rcases c with ⟨_, _, _, _, _, _, _ | t⟩ <;> rfl

/-! ## Statements as a whole -/

/-- A connection at the beginning of a statement. -/
def atStart (c : Connection) : Connection := { c with owedNow := 0, counted := 0, numberings := [] }

variable {α : Type} {s : Step α} {c c' : Connection} {a : α} {h : Halt}

theorem run_whole (s : Step α) (c : Connection) :
    (whole s).run c =
      match (do let a ← s; settle; recordNumbers; pure a : Step α).run (atStart c) with
      | (.ok a, c') => (.ok a, c')
      | (.error h, c') => (recover c h).run c' := by
  have unfolded : (whole s).run c =
      (tryCatch (do let a ← s; settle; recordNumbers; pure a) (recover c)).run (atStart c) := rfl
  rw [unfolded, run_tryCatch]
  rcases (do let a ← s; settle; recordNumbers; pure a : Step α).run (atStart c) with
    ⟨_ | _, _⟩ <;> rfl

/-- What stops a statement is undone, if it says so. -/
theorem run_recover_statement (before c : Connection) (hh : h.undo = .statement) :
    (recover before h : Step α).run c =
      (.error h, { c with database := before.database, owedLater := before.owedLater }) := by
  unfold recover
  rw [hh]
  rfl

/-- Undoing what was done is no success. -/
theorem run_recover_ne_ok (before : Connection) :
    (recover before h : Step α).run c ≠ (.ok a, c') := by
  unfold recover
  cases h.undo with
  | nothing =>
    rw [run_bind]
    rcases (tryCatch settle fun unsettled => do
      goBack before
      throw unsettled).run c with ⟨e | ⟨⟩, c''⟩ <;> exact fun h => by cases h
  | statement => exact fun h => by cases h
  | transaction =>
    unfold undoTransaction
    cases before.transaction <;> exact fun h => by cases h

/-- Settling what is owed changes no table. -/
theorem database_settle (c : Connection) :
    (settle.run c).2.database = c.database ∧ (settle.run c).2.numberings = c.numberings := by
  unfold settle
  simp only [run_bind, run_requireSettled, run_get, Bool.false_eq_true, if_false]
  by_cases owing : 0 < c.owedNow
  · simp [owing]
  simp only [owing, if_false]
  cases c.transaction with
  | none =>
    simp only [Option.isNone_none, if_true, run_bind, run_requireSettled]
    by_cases later : 0 < c.owedLater
    · simp [later]
    · simp only [later, if_false]
      exact ⟨rfl, rfl⟩
  | some t => exact ⟨rfl, rfl⟩

/-- In a transaction a statement that owes nothing has nothing to settle. -/
theorem run_settle_of_opened (nothing : c.owedNow = 0) (opened : c.transaction.isSome) :
    settle.run c = (.ok (), c) := by
  unfold settle
  simp only [run_bind, run_requireSettled, run_get, Bool.false_eq_true, if_false, nothing,
    Int.lt_irrefl, Option.isNone_eq_false_iff.mpr opened]
  rfl

/-- A statement that succeeds as a whole has been made, and settled what it owes. -/
theorem exists_of_whole_ok (hs : (whole s).run c = (.ok a, c')) :
    ∃ c₁, s.run (atStart c) = (.ok a, c₁) ∧
      recordNumbers.run (settle.run c₁).2 = (.ok (), c') := by
  rw [run_whole] at hs
  rcases done : (do let a ← s; settle; recordNumbers; pure a : Step α).run (atStart c) with
    ⟨e | b, c₃⟩
  · simp only [done] at hs
    exact absurd hs (run_recover_ne_ok c)
  simp only [done] at hs
  cases hs
  obtain ⟨a', c₁, made, rest⟩ := exists_of_run_bind_ok done
  obtain ⟨⟨⟩, c₂, settled, rest⟩ := exists_of_run_bind_ok rest
  obtain ⟨⟨⟩, c₃, recorded, given⟩ := exists_of_run_bind_ok rest
  cases given
  exact ⟨c₁, made, by rw [settled]; exact recorded⟩

/-- A statement that knows of no numbers to record is what it was made. -/
theorem exists_database_of_whole_ok (hs : (whole s).run c = (.ok a, c')) :
    ∃ c₁, s.run (atStart c) = (.ok a, c₁) ∧
      (c₁.numberings = [] → c'.database = c₁.database) := by
  obtain ⟨c₁, made, recorded⟩ := exists_of_whole_ok hs
  obtain ⟨database, numberings⟩ := database_settle c₁
  refine ⟨c₁, made, fun quiet => ?_⟩
  have none : recordNumbers.run (settle.run c₁).2 = (.ok (), (settle.run c₁).2) := by
    unfold recordNumbers
    rw [run_bind, run_get]
    simp only [numberings, quiet]
    rfl
  rw [none] at recorded
  cases recorded
  exact database

theorem exists_database_of_wholeChange_ok {parameters : List Cell} {change : Sql.Change}
    (hs : (wholeChange parameters change).run c = (.ok (), c')) :
    ∃ c₁, (Step.change (follow nestingLimit []) parameters [] none change).run
        (atStart c) = (.ok (), c₁) ∧
      (c₁.numberings = [] → c'.database = c₁.database) := by
  unfold wholeChange at hs
  simp only [run_bind, run_tryCatch] at hs
  rcases made : (whole (Step.change (follow nestingLimit []) parameters [] none change)).run c with
    ⟨e | ⟨⟩, c''⟩
  · simp only [made] at hs
    cases hs
  · simp only [made] at hs
    cases hs
    obtain ⟨c₁, changed, kept⟩ := exists_database_of_whole_ok made
    exact ⟨c₁, changed, kept⟩

/-! ## Statements that fail -/

theorem undo_of_settle_error {e : Halt} (h : (settle.run c).1 = .error e) :
    e.undo = .statement := by
  unfold settle at h
  simp only [run_bind, run_requireSettled, run_get, Bool.false_eq_true, if_false] at h
  by_cases owing : 0 < c.owedNow
  · simp only [owing, if_true] at h
    cases h
    rfl
  simp only [owing, if_false] at h
  rcases open? : c.transaction with _ | t
  · simp only [open?, Option.isNone_none, if_true, run_bind, run_requireSettled] at h
    by_cases later : 0 < c.owedLater
    · simp only [later, if_true] at h
      cases h
      rfl
    · simp only [later, if_false] at h
      cases h
  · simp only [open?, Option.isNone_some] at h
    cases h

/-- Numbers are recorded in the table that is there for them. -/
theorem exists_run_recordNumbers (c : Connection) :
    ∃ d, recordNumbers.run c = (.ok (), { c with database := d }) ∧
      Database.AlikeBut [Database.numberingName] c.database d := by
  let record := fun (n : Numbering) =>
    if n.recorded.all (· < n.greatest) then
      Step.modifyTable Database.numberingName fun t =>
        { t with rows := recordNumber n.table n.greatest t.rows }
    else pure ()
  have all : ∀ (ns : List Numbering) (c : Connection),
      ∃ d, (ns.forM record).run c = (.ok (), { c with database := d }) ∧
        Database.AlikeBut [Database.numberingName] c.database d := by
    intro ns
    induction ns with
    | nil => exact fun c => ⟨c.database, rfl, .refl _ _⟩
    | cons n ns ih =>
      intro c
      rw [run_forM_cons, run_bind]
      by_cases passed : (n.recorded.all fun x => decide (x < n.greatest)) = true
      · simp only [record, passed, if_true, Step.modifyTable, run_modify]
        have first := c.database.alikeBut_modifyTable Database.numberingName
          (f := fun t => { t with rows := recordNumber n.table n.greatest t.rows }) fun _ => rfl
        obtain ⟨d, recorded, rest⟩ := ih { c with
          database := c.database.modifyTable Database.numberingName fun t =>
            { t with rows := recordNumber n.table n.greatest t.rows } }
        exact ⟨d, recorded, first.trans rest⟩
      · simp only [record, passed]
        exact ih c
  exact all c.numberings c

/-- A statement that only asks for its own undoing leaves the database as it was when it fails. -/
theorem database_of_whole_error {e : Halt} (hs : (whole s).run c = (.error e, c'))
    (mild : ∀ {e c₁}, s.run (atStart c) = (.error e, c₁) →
      e.undo = .statement) : c'.database = c.database := by
  rw [run_whole] at hs
  simp only [run_bind] at hs
  rcases made : s.run (atStart c) with ⟨e | b, c₁⟩
  · simp only [made, run_recover_statement c c₁ (mild made)] at hs
    cases hs
    rfl
  simp only [made] at hs
  rcases settled : settle.run c₁ with ⟨e | ⟨⟩, c₂⟩
  · have only := undo_of_settle_error (congrArg Prod.fst settled)
    simp only [settled, run_recover_statement c c₂ only] at hs
    cases hs
    rfl
  obtain ⟨d, recorded, -⟩ := exists_run_recordNumbers c₂
  simp only [settled, recorded] at hs
  cases hs

end FilterStore.Engine.Step
