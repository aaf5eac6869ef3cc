import FilterStore.Migration.VersionTable
import FilterStore.Proofs.Engine.Definition
import FilterStore.Proofs.Migration.VersionTable.Sound

/-!
# Creating and dropping the table of versions

The table is created where there is none, and left alone where there is one.  Where it stands apart,
dropping it takes away what belongs to it, or it fails and takes away nothing.
-/

namespace FilterStore.VersionTable

open Engine
open Sql (Token Parsed)
open Text (sameName)

theorem isReserved_standard : isReserved standardVersionTable = false := rfl

/-! ## Creating -/

/-- What is created. -/
def creation : Sql.Creation := ⟨false, true, standardVersionTable, standardVersionTable, 27⟩

theorem tokens_createSql : Token.ofText (createSql standardVersionTable) =
    [⟨.word, "", "CREATE", 0⟩, ⟨.word, " ", "TABLE", 7⟩, ⟨.word, " ", "IF", 13⟩,
      ⟨.word, " ", "NOT", 16⟩, ⟨.word, " ", "EXISTS", 20⟩, ⟨.word, " ", standardVersionTable, 27⟩,
      ⟨.symbol, " ", "(", 38⟩, ⟨.word, "", "version", 39⟩, ⟨.word, " ", "INTEGER", 47⟩,
      ⟨.word, " ", "PRIMARY", 55⟩, ⟨.word, " ", "KEY", 63⟩, ⟨.symbol, "", ",", 66⟩,
      ⟨.word, " ", "applied", 68⟩, ⟨.word, " ", "INTEGER", 76⟩, ⟨.word, " ", "NOT", 84⟩,
      ⟨.word, " ", "NULL", 88⟩, ⟨.word, " ", "DEFAULT", 93⟩, ⟨.symbol, " ", "(", 101⟩,
      ⟨.word, "", "CAST", 102⟩, ⟨.symbol, "", "(", 106⟩, ⟨.word, "", "strftime", 107⟩,
      ⟨.symbol, "", "(", 115⟩, ⟨.string, "", "'%s'", 116⟩, ⟨.symbol, "", ",", 120⟩,
      ⟨.string, " ", "'now'", 122⟩, ⟨.symbol, "", ")", 127⟩, ⟨.word, " ", "AS", 129⟩,
      ⟨.word, " ", "INTEGER", 132⟩, ⟨.symbol, "", ")", 139⟩, ⟨.symbol, "", ")", 140⟩,
      ⟨.symbol, "", ")", 141⟩, ⟨.finish, "", "", 142⟩] := by
  decide +kernel

set_option maxRecDepth 2000 in
theorem parsed_createSql :
    Parsed.ofText (createSql standardVersionTable) =
      .ok (some
        ⟨.define (.createTable creation ledgerParts created.text created.rest), 0, ""⟩) := by
  unfold Parsed.ofText
  rw [tokens_createSql]
  rfl

/-- A table of versions that is created is sound.  It has the versions that were there. -/
theorem sound_of_create {c c' : Connection} (h : Sound c.database)
    (done : (ledger standardVersionTable).create.run c = (.ok (), c')) :
    Sound c'.database ∧ versionsOf c'.database = some ((versionsOf c.database).getD []) := by
  obtain ⟨hs, c₁, defined, database⟩ := exists_of_batch_ok parsed_createSql done
  have made : (Step.createTable creation ledgerParts created.text created.rest).run
      (Step.atStart c) = (.ok (), c₁) := of_run_silent_ok defined
  rcases of_createTable_ok rfl made with ⟨found, rfl⟩ | ⟨missing, rfl⟩
  · have same : c'.database = c.database := database rfl
    rcases c.database.table?_or_view?_of_objectIn? standardVersionTable found with table | view
    · obtain ⟨t, ht⟩ := Option.isSome_iff_exists.mp table
      rw [same, versionsOf_of_some ht]
      exact ⟨h, rfl⟩
    · rw [h.view] at view
      cases view
  · have added : c'.database = c.database.add false (.table created) := database rfl
    have none := c.database.table?_eq_none_of_objectIn? standardVersionTable missing h.permanent
    rw [added, versionsOf_add none]
    unfold versionsOf
    rw [none]
    exact ⟨sound_add h none, rfl⟩

/-! ## Dropping -/

theorem tokens_dropSql :
    Token.ofText (dropSql standardVersionTable) =
      [⟨.word, "", "DROP", 0⟩, ⟨.word, " ", "TABLE", 5⟩, ⟨.word, " ", "IF", 11⟩,
        ⟨.word, " ", "EXISTS", 14⟩, ⟨.word, " ", standardVersionTable, 21⟩,
        ⟨.finish, "", "", 31⟩] := by
  decide +kernel

theorem parsed_dropSql :
    Parsed.ofText (dropSql standardVersionTable) =
      .ok (some ⟨.define (.dropTable true standardVersionTable), 0, ""⟩) := by
  unfold Parsed.ofText
  rw [tokens_dropSql]
  rfl

theorem run_isOwn (c : Connection) : (Step.isOwn standardVersionTable).run c = (.ok false, c) := by
  unfold Step.isOwn
  simp only [run_bind, run_get, isReserved_standard, Bool.false_and]
  rfl

/-- What dropping the table comes to. -/
theorem Apart.run_dropOwner {c : Connection} (h : Apart c.database) :
    (Step.dropOwner .table true standardVersionTable).run c =
      match c.database.object? [.table, .view] standardVersionTable with
      | some (.view v) => (.error (.ofFault (.wrongKind .view v.name)), c)
      | _ => (.ok (), { c with database := without c.database }) := by
  unfold Step.dropOwner without
  simp only [run_bind, run_get, run_isOwn, Bool.false_eq_true, if_false]
  rcases found : c.database.object? [.table, .view] standardVersionTable with _ | o
  · rfl
  cases o with
  | table t =>
    have same : sameName t.name standardVersionTable :=
      (Database.object?_kind _ _ found).2
    have there : c.database.table? standardVersionTable = some t :=
      c.database.table?_of_object? standardVersionTable found
    obtain ⟨references, lasting⟩ := h.plain t there
    have emptying : c.checkEmptying t = .ok () := by
      unfold Connection.checkEmptying Database.followUps
      simp only [h.touchedOthers same]
      cases c.foreignKeys <;> rfl
    have emptied : (Step.mustBeEmptied t).run c = (.ok false, c) := by
      unfold Step.mustBeEmptied
      simp only [run_bind, run_get, h.referencesTo same, references]
      cases c.foreignKeys <;> simp [run_pure]
    have forgotten : (Step.forgetNumbers t).run c = (.ok (), c) := by
      unfold Step.forgetNumbers
      rw [lasting]
      rfl
    have removed : (Step.removeOwner standardVersionTable).run c =
        (.ok (), { c with
          database := c.database.remove fun o => sameName o.tableName standardVersionTable }) := by
      have shown : (c.database.temporary.any fun o =>
          sameName o.name standardVersionTable && o.kind != .trigger) = false :=
        List.any_eq_false.mpr fun o ho => by simp [h.permanent o ho]
      unfold Step.removeOwner
      simp only [run_modify, shown, Bool.false_eq_true, if_false]
      rfl
    have table : (SchemaObject.table t).kind = .table := rfl
    simp only [table, ne_eq, not_true_eq_false, if_false, run_bind, run_get, emptying,
      Step.run_ofExcept, mapError_ok, emptied, Bool.false_eq_true, forgotten, removed,
      Option.isSome_some, if_true]
  | view v => rfl
  | index i => cases (Database.object?_kind _ _ found).1
  | trigger g => cases (Database.object?_kind _ _ found).1



section Drop

variable {c c' c₁ : Connection}

theorem Apart.define_drop_ok (h : Apart c.database) {hs : List String}
    (done : (Step.define (.dropTable true standardVersionTable)).run c = (.ok hs, c₁)) :
    c₁ = { c with database := without c.database } := by
  have dropped : (Step.dropOwner .table true standardVersionTable).run c = (.ok (), c₁) :=
    of_run_silent_ok done
  rw [h.run_dropOwner] at dropped
  rcases found : c.database.object? [.table, .view] standardVersionTable with
    _ | (t | i | g | v) <;> simp only [found] at dropped <;> cases dropped <;> rfl

theorem Apart.undo_of_define_drop_error (h : Apart c.database) {e : Halt}
    (failed : (Step.define (.dropTable true standardVersionTable)).run c = (.error e, c₁)) :
    e.undo = .statement := by
  have unfolded : (Step.define (.dropTable true standardVersionTable)).run c =
      (Step.silent (Step.dropOwner .table true standardVersionTable)).run c := rfl
  rw [unfolded, run_silent, h.run_dropOwner] at failed
  rcases found : c.database.object? [.table, .view] standardVersionTable with
    _ | (t | i | g | v) <;> simp only [found] at failed <;> cases failed
  rfl

/-- Dropping the table of versions takes away what belongs to it. -/
theorem Apart.database_of_drop_ok (h : Apart c.database)
    (done : (ledger standardVersionTable).drop.run c = (.ok (), c')) :
    c'.database = without c.database := by
  obtain ⟨hs, c₁, dropped, same⟩ := exists_of_batch_ok parsed_dropSql done
  obtain rfl := Apart.define_drop_ok (c := Step.atStart c) h dropped
  exact same rfl

/-- When it fails, nothing is taken away. -/
theorem Apart.database_of_drop_error (h : Apart c.database) {e : Failure}
    (failed : (ledger standardVersionTable).drop.run c = (.error e, c')) :
    c'.database = c.database := by
  exact database_of_batch_error parsed_dropSql failed fun stopped =>
    Apart.undo_of_define_drop_error (c := Step.atStart c) h stopped

end Drop

end FilterStore.VersionTable
