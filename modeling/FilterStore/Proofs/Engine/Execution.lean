import FilterStore.Proofs.Outcome
import FilterStore.Store.Action

/-!
# Running texts

What a query and a batch do is said in terms of the statements they hold: a statement is prepared,
which changes nothing, and then performed.
-/

namespace FilterStore.Engine

open Sql (EngineError Fault Parsed)

variable {α : Type}

theorem parsed_of_prepare {c : Connection} {text : String} {parsed : Option Parsed}
    (h : prepare c text = .ok parsed) : Parsed.ofText text = .ok parsed := by
  unfold prepare at h
  obtain ⟨found, hfound, h⟩ := bind_eq_ok_iff.mp h
  simp only [] at h
  split at h
  · obtain ⟨-, -, h⟩ := bind_eq_ok_iff.mp h
    cases h
    exact hfound
  · obtain ⟨-, -, h⟩ := bind_eq_ok_iff.mp h
    cases h
    exact hfound
  · cases h
    exact hfound

/-- A text without a statement is prepared as it is. -/
theorem prepare_of_none (c : Connection) {text : String} (h : Parsed.ofText text = .ok none) :
    prepare c text = .ok none := by
  unfold prepare
  rw [h]
  rfl

theorem Step.run_world (parameters : List Cell) (c : Connection) :
    (Step.world parameters).run c = (.ok (c.world parameters .statement), c) := rfl

theorem Step.run_ofExcept (e : Except Fault α) (c : Connection) :
    (Step.ofExcept e).run c = (e.mapError .ofFault, c) := rfl

/-- A query answers its rows and changes nothing. -/
theorem Step.run_perform_select (parameters : List Cell) (s : Sql.Select) (c : Connection) :
    (Step.perform parameters (.change (.select s))).run c =
      match queryRows (c.world parameters .statement) [] false s with
      | .error fault => (.error (.ofFault fault), c)
      | .ok rows => (.ok (headings (c.world parameters .statement) s, rows), c) := by
  unfold Step.perform
  simp only [run_bind, run_world, run_ofExcept]
  rcases queryRows (c.world parameters .statement) [] false s with fault | rows <;> rfl

theorem Step.run_checkTarget (change : Sql.Change) (c : Connection) :
    (Step.checkTarget change).run c =
      if c.readOnly && (changedTable? change).any fun t => !c.database.isTemporary t then
        (.error (.ofFault .readOnly), c)
      else (.ok (), c) := by
  unfold Step.checkTarget
  rw [run_bind, run_get]
  simp only []
  split <;> rfl

/-- A change of rows that succeeds has been made as a whole. -/
theorem Step.run_wholeChange_of_perform_ok {parameters : List Cell} {change : Sql.Change}
    {c c' : Connection} {a : List String × List (List Cell)}
    (rows : (changedTable? change).isSome)
    (h : (Step.perform parameters (.change change)).run c = (.ok a, c')) :
    (Step.wholeChange parameters change).run c = (.ok (), c') := by
  have split : (Step.perform parameters (.change change)).run c =
      (do Step.checkTarget change; Step.wholeChange parameters change; pure ([], []) :
        Step (List String × List (List Cell))).run c := by
    cases change with
    | select => cases rows
    | insert | update | delete => rfl
  rw [split, run_bind, run_checkTarget] at h
  by_cases refused :
      (c.readOnly && (changedTable? change).any fun t => !c.database.isTemporary t) = true
  · simp only [refused, if_true] at h
    cases h
  simp only [refused, Bool.false_eq_true, if_false, run_bind] at h
  rcases made : (Step.wholeChange parameters change).run c with ⟨e | ⟨⟩, c₁⟩
  · simp only [made] at h
    cases h
  · simp only [made] at h
    cases h
    rfl

theorem first_answer (c : Connection) (text : String) (columns : List String)
    (rows : List (List Cell)) :
    (answer c text columns rows).first = (rows.headD []).headD .null := by
  unfold answer
  split <;> rfl

namespace Work

theorem run_ofExcept (source : String) (sql : Option String) (e : Except Fault α) (c : Connection) :
    (ofExcept source sql e).run c = (e.mapError fun fault => { fault, source, sql }, c) := rfl

theorem run_ofStep (source : String) (sql : Option String) (s : Step α) (c : Connection) :
    (ofStep source sql s).run c =
      ((s.run c).1.mapError fun h => { fault := h.fault, source, sql }, (s.run c).2) := rfl

/-- What preparing a text that holds one statement leads to. -/
def prepared (c : Connection) (sql : String) : Except EngineError (Option Parsed) :=
  match prepare c sql with
  | .error fault => .error { fault, source := sql, sql := some sql }
  | .ok none => .ok none
  | .ok (some parsed) =>
    match restFault? c false sql.length parsed.rest with
    | some (fault, source) => .error { fault, source, sql := some sql }
    | none => .ok (some parsed)

theorem run_prepareSingle (sql : String) (c : Connection) :
    (prepareSingle sql).run c = (prepared c sql, c) := by
  unfold prepareSingle prepared
  simp only [run_bind, run_get, run_ofExcept]
  rcases prepare c sql with fault | (_ | parsed)
  · rfl
  · rfl
  · simp only [mapError_ok]
    rcases restFault? c false sql.length parsed.rest with _ | ⟨fault, source⟩ <;> rfl

theorem parsed_of_prepared {c : Connection} {sql : String} {parsed : Parsed}
    (h : prepared c sql = .ok (some parsed)) : Parsed.ofText sql = .ok (some parsed) := by
  unfold prepared at h
  rcases hp : prepare c sql with fault | (_ | found) <;> simp only [hp] at h
  · cases h
  · cases h
  · split at h
    · cases h
    · cases h
      exact parsed_of_prepare hp

/-- A query is prepared and performed. -/
theorem run_query (q : Query) (c : Connection) :
    (query q).run c = match prepared c q.sql with
      | .error e => (.error e, c)
      | .ok none =>
        match checkParameters q.values.length 0 with
        | .error fault => (.error { fault, source := q.sql, sql := some q.sql }, c)
        | .ok () => (.error { fault := .noStatement, source := q.sql, sql := some q.sql }, c)
      | .ok (some parsed) =>
        match checkParameters q.values.length parsed.parameters with
        | .error fault => (.error { fault, source := q.sql, sql := some q.sql }, c)
        | .ok () =>
          match (Step.perform (q.values.map bound) parsed.statement).run c with
          | (.error h, c) => (.error { fault := h.fault, source := q.sql, sql := some q.sql }, c)
          | (.ok (columns, rows), c) => (.ok (answer c q.sql columns rows), c) := by
  unfold query
  simp only [run_bind, run_prepareSingle, run_ofExcept]
  rcases prepared c q.sql with e | (_ | parsed)
  · rfl
  · simp only [Option.map_none, Option.getD_none]
    rcases checkParameters q.values.length 0 with fault | ⟨⟩ <;> rfl
  simp only [Option.map_some, Option.getD_some]
  rcases checkParameters q.values.length parsed.parameters with fault | ⟨⟩
  · rfl
  simp only [mapError_ok, run_bind, run_ofStep]
  rcases (Step.perform (q.values.map bound) parsed.statement).run c with
    ⟨h | ⟨columns, rows⟩, c'⟩ <;> rfl

/-- A batch of one statement is that statement, prepared and performed. -/
theorem run_runAll_single (sql : Option String) (fuel : Nat) {text : String} {parsed : Parsed}
    (c : Connection) (read : Parsed.ofText text = .ok (some parsed))
    (rest : Parsed.ofText parsed.rest = .ok none) :
    (runAll sql (fuel + 2) text).run c = match prepare c text with
      | .error fault => (.error { fault, source := text, sql }, c)
      | .ok _ =>
        match (Step.perform [] parsed.statement).run c with
        | (.error h, c) => (.error { fault := h.fault, source := text, sql }, c)
        | (.ok _, c) => (.ok (), c) := by
  have ended : ∀ c, (runAll sql (fuel + 1) parsed.rest).run c = (.ok (), c) := by
    intro c
    unfold runAll
    simp only [run_bind, run_get, run_ofExcept, prepare_of_none c rest]
    rfl
  unfold runAll
  simp only [run_bind, run_get, run_ofExcept]
  rcases prepared : prepare c text with fault | found
  · rfl
  obtain rfl : found = some parsed := Except.ok.inj ((parsed_of_prepare prepared).symm.trans read)
  simp only [mapError_ok, run_bind, run_ofStep]
  rcases (Step.perform [] parsed.statement).run c with ⟨h | answer, c'⟩
  · rfl
  · exact ended c'

end Work

theorem run_ofWork (w : Work α) (c : Connection) :
    (Action.ofWork w).run c = ((w.run c).1.mapError Failure.engine, (w.run c).2) := rfl

end FilterStore.Engine
