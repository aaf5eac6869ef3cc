import FilterStore.Proofs.Engine.Execution
import FilterStore.Proofs.Engine.Transaction

/-!
# Running a definition

A batch that is one change of the schema is that change as a whole.  It succeeds with what the
change has made of the database; if it fails with no more than its own undoing, the database is what
it was.
-/

namespace FilterStore.Engine

open Sql (Parsed)

section Passed

variable {α : Type} {a : α} {c c' : Connection}

theorem of_run_ofExcept_ok {e : Except Sql.Fault α} (h : (Step.ofExcept e).run c = (.ok a, c')) :
    c' = c := (congrArg Prod.snd h).symm

/-- A guard that lets a step go on. -/
theorem of_run_guard_ok {p : Prop} [Decidable p] {f : Sql.Fault} {s : PUnit → Step α}
    (h : (if p then Step.stop f >>= s else s ⟨⟩).run c = (.ok a, c')) :
    ¬p ∧ (s ⟨⟩).run c = (.ok a, c') := by
  split at h
  · cases h
  · exact ⟨‹¬p›, h⟩

end Passed

theorem run_silent (s : Step Unit) (c : Connection) :
    (Step.silent s).run c = match s.run c with
      | (.ok (), c) => (.ok [], c)
      | (.error h, c) => (.error h, c) := by
  unfold Step.silent
  rw [run_bind]
  rcases s.run c with ⟨_ | _, _⟩ <;> rfl

theorem of_run_silent_ok {s : Step Unit} {c c' : Connection} {hs : List String}
    (h : (Step.silent s).run c = (.ok hs, c')) : s.run c = (.ok (), c') := by
  obtain ⟨⟨⟩, c₁, made, given⟩ := exists_of_run_bind_ok h
  cases given
  exact made

/-- What is done of a definition as a whole. -/
def defined (d : Sql.Definition) (before : Connection) : Step (List String) := do
  let headings ← Step.define d
  Step.checkSchema before
  pure headings

theorem run_perform_define (d : Sql.Definition) (c : Connection) :
    (Step.perform [] (.define d)).run c = match (Step.whole (defined d c)).run c with
      | (.ok headings, c) => (.ok (headings, []), c)
      | (.error h, c) => (.error h, c) := by
  have split : (Step.perform [] (.define d)).run c =
      (do
        let headings ← Step.whole (defined d c)
        pure (headings, []) : Step (List String × List (List Cell))).run c := rfl
  rw [split, run_bind]
  rcases (Step.whole (defined d c)).run c with ⟨_ | _, _⟩ <;> rfl

theorem run_checkSchema (before c : Connection) :
    (Step.checkSchema before).run c =
      if c.readOnly && c.database.objects.map SchemaObject.sql !=
        before.database.objects.map SchemaObject.sql then (.error (.ofFault .readOnly), c)
      else (.ok (), c) := by
  unfold Step.checkSchema
  simp only [run_bind, run_get]
  split <;> rfl

section Defined

variable {d : Sql.Definition} {c c₁ before : Connection}

/-- What succeeds has been done. -/
theorem define_of_defined_ok {hs : List String} (h : (defined d before).run c = (.ok hs, c₁)) :
    (Step.define d).run c = (.ok hs, c₁) := by
  obtain ⟨hs', c₂, made, checked⟩ := exists_of_run_bind_ok h
  obtain ⟨⟨⟩, c₃, passed, given⟩ := exists_of_run_bind_ok checked
  cases given
  rw [run_checkSchema] at passed
  split at passed
  · cases passed
  · cases passed
    exact made

/-- What fails has failed by itself, or was refused behind it. -/
theorem define_of_defined_error {e : Halt} (h : (defined d before).run c = (.error e, c₁)) :
    (Step.define d).run c = (.error e, c₁) ∨ e = .ofFault .readOnly := by
  unfold defined at h
  simp only [run_bind, run_checkSchema, run_pure] at h
  rcases made : (Step.define d).run c with ⟨e' | hs', c₂⟩
  · simp only [made] at h
    cases h
    exact .inl rfl
  simp only [made] at h
  by_cases refused : (c₂.readOnly && c₂.database.objects.map SchemaObject.sql !=
      before.database.objects.map SchemaObject.sql) = true
  · simp only [refused, if_true] at h
    cases h
    exact .inr rfl
  · simp only [refused, if_false, Bool.false_eq_true] at h
    cases h

end Defined

section Batch

variable {d : Sql.Definition} {text : String} {c c' : Connection}

/-- A batch of one change of the schema is that change as a whole, or is not prepared. -/
theorem run_batch_define (read : Parsed.ofText text = .ok (some ⟨.define d, 0, ""⟩))
    (c : Connection) :
    (Action.batch text).run c = match prepare c text with
      | .error fault => (.error (.engine { fault, source := text, sql := some text }), c)
      | .ok _ =>
        match (Step.whole (defined d c)).run c with
        | (.error h, c) =>
          (.error (.engine { fault := h.fault, source := text, sql := some text }), c)
        | (.ok _, c) => (.ok (), c) := by
  obtain ⟨n, length⟩ : ∃ n, text.length = n + 1 := by
    refine Nat.exists_eq_succ_of_ne_zero fun empty => ?_
    rw [String.length_eq_zero_iff.mp empty] at read
    cases read
  have fuel : (Action.batch text).run c =
      (Action.ofWork (Work.runAll (some text) (n + 2) text)).run c := by
    unfold Action.batch Work.batch
    rw [length]
  rw [fuel, run_ofWork, Work.run_runAll_single _ _ c read rfl, run_perform_define]
  rcases prepare c text with fault | parsed
  · rfl
  · rcases (Step.whole (defined d c)).run c with ⟨_ | _, _⟩ <;> rfl

/-- A change of the schema that succeeds leaves the database it has made. -/
theorem exists_of_batch_ok (read : Parsed.ofText text = .ok (some ⟨.define d, 0, ""⟩))
    (h : (Action.batch text).run c = (.ok (), c')) :
    ∃ hs c₁, (Step.define d).run (Step.atStart c) = (.ok hs, c₁) ∧
      (c₁.numberings = [] → c'.database = c₁.database) := by
  rw [run_batch_define read] at h
  rcases prepared : prepare c text with fault | parsed
  · simp only [prepared] at h
    cases h
  rcases whole : (Step.whole (defined d c)).run c with ⟨e | hs, c₁⟩
  · simp only [prepared, whole] at h
    cases h
  · simp only [prepared, whole] at h
    cases h
    obtain ⟨c₁, made, database⟩ := Step.exists_database_of_whole_ok whole
    exact ⟨hs, c₁, define_of_defined_ok made, database⟩

/-- A change of the schema that fails leaves the database as it was, if it only asks for its own
undoing. -/
theorem database_of_batch_error (read : Parsed.ofText text = .ok (some ⟨.define d, 0, ""⟩))
    {e : Failure} (h : (Action.batch text).run c = (.error e, c'))
    (mild : ∀ {e c₁}, (Step.define d).run (Step.atStart c) = (.error e, c₁) →
      e.undo = .statement) : c'.database = c.database := by
  rw [run_batch_define read] at h
  rcases prepared : prepare c text with fault | parsed
  · simp only [prepared] at h
    cases h
    rfl
  rcases whole : (Step.whole (defined d c)).run c with ⟨e | hs, c₁⟩
  · simp only [prepared, whole] at h
    cases h
    refine Step.database_of_whole_error whole fun made => ?_
    rcases define_of_defined_error made with failed | rfl
    · exact mild failed
    · rfl
  · simp only [prepared, whole] at h
    cases h

end Batch

/-! ## Creating a table -/

theorem isReserved_congr {a b : String} (h : Text.sameName a b) : isReserved a = isReserved b := by
  unfold isReserved
  rw [Text.sameName_iff.mp h]

section Creation

variable {n : Sql.Creation} {parts : Sql.TableParts} {text rest : String} {c c₁ : Connection}

theorem of_nameIsFree_ok {free : Bool} (h : (Step.nameIsFree n).run c = (.ok free, c₁)) :
    c₁ = c ∧ free = (c.database.objectIn? n.temporary [.table, .view] n.name).isNone := by
  obtain ⟨_, _, ⟨⟩, named⟩ := exists_of_run_bind_ok h
  obtain ⟨⟨⟩, c₂, allowed, asked⟩ := exists_of_run_bind_ok named
  obtain rfl := of_run_ofExcept_ok allowed
  rcases found : c₂.database.objectIn? n.temporary [.table, .view] n.name with _ | o
  · simp only [found] at asked
    split at asked
    · cases asked
    · cases asked
      exact ⟨rfl, rfl⟩
  · simp only [found] at asked
    split at asked
    · cases asked
      exact ⟨rfl, rfl⟩
    · cases asked

theorem of_forM_ofExcept_ok {α : Type} {f : α → Except Sql.Fault Unit} {xs : List α}
    (h : (xs.forM fun x => Step.ofExcept (f x)).run c = (.ok (), c₁)) : c₁ = c := by
  induction xs with
  | nil =>
    cases h
    rfl
  | cons x xs ih =>
    rw [run_forM_cons] at h
    obtain ⟨⟨⟩, c₂, first, others⟩ := exists_of_run_bind_ok h
    obtain rfl := of_run_ofExcept_ok first
    exact ih others

/-- A table that is created was there already, or it is added without rows, and then the table of
the numbers if it needs that. -/
theorem exists_of_createTable_ok
    (h : (Step.createTable n parts text rest).run c = (.ok (), c₁)) :
    ((c.database.objectIn? n.temporary [.table, .view] n.name).isSome ∧ c₁ = c) ∨
      c.database.objectIn? n.temporary [.table, .view] n.name = none ∧
        (if (⟨n.name, parts, text, rest, []⟩ : Table).isLasting then Step.createNumbering
          else pure () : Step Unit).run { c with
            database := c.database.add n.temporary (.table ⟨n.name, parts, text, rest, []⟩) } =
          (.ok (), c₁) := by
  unfold Step.createTable at h
  obtain ⟨free, c₂, named, made⟩ := exists_of_run_bind_ok h
  obtain ⟨rfl, rfl⟩ := of_nameIsFree_ok named
  rcases found : c₂.database.objectIn? n.temporary [.table, .view] n.name with _ | o
  · refine .inr ⟨rfl, ?_⟩
    simp only [found, Option.isNone_none, if_true] at made
    rcases flaw : parts.flaw with _ | fault
    · simp only [flaw] at made
      obtain ⟨_, _, ⟨⟩, sound⟩ := exists_of_run_bind_ok made
      obtain ⟨⟨⟩, c₃, checked, added⟩ := exists_of_run_bind_ok sound
      obtain rfl := of_forM_ofExcept_ok checked
      exact added
    · simp only [flaw] at made
      cases made
  · simp only [found, Option.isNone_some, Bool.false_eq_true, if_false] at made
    cases made
    exact .inl ⟨rfl, rfl⟩

/-- Without a need for numbers it is only the table that is added. -/
theorem of_createTable_ok
    (plain : (⟨n.name, parts, text, rest, []⟩ : Table).isLasting = false)
    (h : (Step.createTable n parts text rest).run c = (.ok (), c₁)) :
    ((c.database.objectIn? n.temporary [.table, .view] n.name).isSome ∧ c₁ = c) ∨
      c.database.objectIn? n.temporary [.table, .view] n.name = none ∧
        c₁ = { c with
          database := c.database.add n.temporary (.table ⟨n.name, parts, text, rest, []⟩) } := by
  refine (exists_of_createTable_ok h).imp_right (And.imp_right fun numbered => ?_)
  rw [plain] at numbered
  cases numbered
  rfl

end Creation

end FilterStore.Engine
