import FilterStore.Proofs.Migration.VersionTable.Lawful

/-!
# Schema functions that create tables

A schema function that creates a table of another name leaves its transaction and the table of
versions alone, whether it succeeds or fails behind that.
-/

namespace FilterStore.VersionTable

open Engine
open Sql (Parsed)
open Text (sameName)

/-! ## Tables beside the table of versions -/

theorem sound_add_other {d : Database} {t : Table} (h : Sound d)
    (other : sameName t.name standardVersionTable = false) (plain : t.parts.references = []) :
    Sound (d.add false (.table t)) := by
  constructor
  case permanent => exact h.permanent
  case unreferenced =>
    intro u hu
    rw [Database.tables_add] at hu
    rcases List.mem_append.mp hu with hu | hu
    · exact h.unreferenced u hu
    · obtain rfl := List.mem_singleton.mp hu
      rw [plain]
      exact fun r hr => by cases hr
  case view => exact (d.view?_add _ rfl _).trans h.view
  case triggers => exact (d.triggersOf_add _ rfl _).trans h.triggers
  case indexes => exact (d.indexesOf_add _ rfl _).trans h.indexes
  case table => exact fun u hu => h.table u ((d.table?_add_other _ other).symm.trans hu)

/-- Whether a text creates a table that has nothing to do with the table of versions. -/
def createsOther (text : String) : Bool :=
  match Parsed.ofText text with
  | .ok (some ⟨.define (.createTable n parts text rest), 0, ""⟩) =>
    !n.temporary && !sameName n.name standardVersionTable && parts.references.isEmpty &&
      !(⟨n.name, parts, text, rest, []⟩ : Table).isLasting
  | _ => false

/-- A schema function that runs a batch, and then succeeds or fails. -/
def running (text : String) (result : Except Failure Unit) : SchemaFunction Connection String :=
  fun _ _ c =>
    { database := ((Action.batch text).run c).2
      notes := [text]
      result := ((Action.batch text).run c).1 >>= fun _ => result }

/-- The statement of a text that creates another table. -/
theorem exists_of_createsOther {text : String} (h : createsOther text) :
    ∃ n parts rest' rest, Parsed.ofText text =
        .ok (some ⟨.define (.createTable n parts rest' rest), 0, ""⟩) ∧
      n.temporary = false ∧ sameName n.name standardVersionTable = false ∧
      parts.references = [] ∧ (⟨n.name, parts, rest', rest, []⟩ : Table).isLasting = false := by
  unfold createsOther at h
  split at h
  · rename_i n parts rest' rest read
    simp only [Bool.and_eq_true, Bool.not_eq_true', List.isEmpty_iff] at h
    exact ⟨n, parts, rest', rest, read, h.1.1.1, h.1.1.2, h.1.2, h.2⟩
  · cases h

theorem shows_of_createsOther {text : String} (h : createsOther text) {c c' : Connection}
    {x : Option (List Cell)} (hx : Connection.aspect.Shows c x)
    (done : (Action.batch text).run c = (.ok (), c')) : Connection.aspect.Shows c' x := by
  obtain ⟨n, parts, rest', rest, read, permanent, other, plain, lasting⟩ := exists_of_createsOther h
  obtain ⟨hs, c₁, defined, database⟩ := exists_of_batch_ok read done
  have made : (Step.createTable n parts rest' rest).run (Step.atStart c) = (.ok (), c₁) :=
    of_run_silent_ok defined
  rcases of_createTable_ok lasting made with ⟨-, rfl⟩ | ⟨-, rfl⟩
  · exact hx.congr (database rfl)
  · have added : c'.database = c.database.add false (.table ⟨n.name, parts, rest', rest, []⟩) :=
      permanent ▸ database rfl
    constructor
    · show Sound c'.database
      rw [added]
      exact sound_add_other hx.sound other plain
    · refine Eq.trans ?_ hx.versions
      show versionsOf c'.database = versionsOf c.database
      have found := c.database.table?_add_other (t := ⟨n.name, parts, rest', rest, []⟩)
        standardVersionTable other
      unfold versionsOf
      rw [added, found]

theorem tame_running {text : String} (h : createsOther text) (result : Except Failure Unit)
    (r : Registry) (v : Option Int64) : Connection.aspect.Tame (running text result r v) where
  within := by
    obtain ⟨n, parts, rest', rest, read, -⟩ := exists_of_createsOther h
    have loyal := Engine.loyal_batch (Engine.textControls_of_single read rfl rfl _)
    intro c d hd
    have within := within_of_loyal (ν := String) loyal c d hd
    simp only [Deed.ofWork, running] at within ⊢
    rcases ran : (Action.batch text).run c with ⟨e | ⟨⟩, c'⟩ <;> rw [ran] at within
    · exact within
    · have stays : Connection.aspect.start c' = some d := within
      cases result with
      | ok => exact stays
      | error e =>
        show Connection.aspect.undone c' = d
        unfold Aspect.undone
        rw [stays]
        rfl
  spares c x done hx := by
    obtain ⟨⟨⟩, ran, -⟩ := bind_eq_ok_iff.mp done
    exact shows_of_createsOther h hx (Prod.ext ran rfl)

end FilterStore.VersionTable
