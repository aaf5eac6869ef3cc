import FilterStore.Dump.Restore
import FilterStore.Proofs.Calendar.Date
import FilterStore.Proofs.Engine.Storing
import FilterStore.Proofs.Schema.Named
import FilterStore.Proofs.Text.Words
import Mathlib.Data.List.Perm.Subperm

/-!
# Recorded columns

Rows of a dump are inserted under the names of the columns that the dump has recorded for their
table, if these are the columns that the table has.  They are if both are the same names up to case,
in whatever order (`SameNames`), and then the insertion has a value for each column and no second
one (`Engine.Table.assignsOnce`).

The check compares the numbers of columns and looks every recorded name up among those of the table.
That is enough as long as no name is recorded twice.  Columns that are recorded as `a` and `A` pass
for those of a table with columns `a` and `b`: both are columns of the table, and there are two of
them.  So the check does what it is for unless a list of recorded columns repeats itself, has the
length of the other and no unknown name in it, with rows to match (`checksColumns_iff`).
-/

namespace FilterStore

open Engine (Slot Table insertedSlots)
open Sql (Column NulFree Parsed Refers rowInsertion)
open Text (lower sameName)

/-! ## Names in another order -/

/-- The same names, up to case and in any order. -/
def SameNames (xs ys : List String) : Prop := (xs.map lower).Perm (ys.map lower)

instance (xs ys : List String) : Decidable (SameNames xs ys) := List.decidablePerm ..

section Names

variable {recorded live : List String}

/-- The names are the same if there are as many, all of them known, and none twice. -/
theorem sameNames_iff (distinct : Named.Distinct id live) : SameNames recorded live ↔
    recorded.length = live.length ∧ (∀ c ∈ recorded, ∃ l ∈ live, sameName c l = true) ∧
      Named.Distinct id recorded := by
  have known : (∀ c ∈ recorded, ∃ l ∈ live, sameName c l = true) ↔
      recorded.map lower ⊆ live.map lower := by
    constructor
    · intro known name hn
      obtain ⟨c, hc, rfl⟩ := List.mem_map.mp hn
      obtain ⟨l, hl, same⟩ := known c hc
      exact List.mem_map.mpr ⟨l, hl, (Text.sameName_iff.mp same).symm⟩
    · intro subset c hc
      obtain ⟨l, hl, same⟩ := List.mem_map.mp (subset (List.mem_map_of_mem hc))
      exact ⟨l, hl, Text.sameName_iff.mpr same.symm⟩
  rw [known]
  constructor
  · intro same
    have length := same.length_eq
    rw [List.length_map, List.length_map] at length
    exact ⟨length, same.subset, same.nodup_iff.mpr distinct⟩
  · rintro ⟨length, subset, once⟩
    refine (List.subperm_of_subset once subset).perm_of_length_le ?_
    rw [List.length_map, List.length_map, length]

/-- A name is without null characters if it is in another case. -/
theorem Sql.NulFree.of_lower {a b : String} (h : NulFree a) (same : lower a = lower b) :
    NulFree b := by
  have zero : ∀ c : Char, c.toLower = Char.ofNat 0 ↔ c = Char.ofNat 0 := fun c => by
    have none : (Char.ofNat 0).toNat = 0 := rfl
    rw [← Char.toNat_inj, ← Char.toNat_inj, Text.toNat_toLower, none]
    split <;> omega
  intro c hc nul
  have mem : c.toLower ∈ (lower a).toList := by
    rw [same, Text.toList_lower]
    exact List.mem_map_of_mem hc
  rw [Text.toList_lower] at mem
  obtain ⟨d, hd, lowered⟩ := List.mem_map.mp mem
  exact h d hd ((zero d).mp (lowered.trans ((zero c).mpr nul)))

end Names

/-! ## What is assigned -/

namespace Engine.Table

variable {t : Table} {recorded : List String}

/-- The statement that inserts rows under the recorded names assigns a value of its own to every
column of a table: its names lead to the slots of all columns, each of them once. -/
def AssignsOnce (t : Table) (recorded : List String) : Prop :=
  ∃ es, Parsed.ofText (Replay.insertSql t.name recorded) =
      .ok (some ⟨.change (rowInsertion t.name recorded es), recorded.length, ""⟩) ∧
    List.Forall₂ Refers (List.range' 1 recorded.length) es ∧
    ∃ slots, insertedSlots t t.name (some recorded) = .ok slots ∧ slots.Perm t.slots

/-- Case does not matter for the slot of a name. -/
theorem slot?_lower (t : Table) (name : String) : t.slot? (lower name) = t.slot? name := by
  have same : ∀ other, sameName other (lower name) = sameName other name := fun other => by
    rw [Bool.eq_iff_iff, Text.sameName_iff, Text.sameName_iff, Text.lower_lower]
  have same' : sameName (lower name) = sameName name := funext fun other => by
    rw [Bool.eq_iff_iff, Text.sameName_iff, Text.sameName_iff, Text.lower_lower]
  simp only [slot?, columnIndex?, same, same']

theorem map_slot? (h : t.Proper) : (t.columns.map Column.name).map t.slot? = t.slots.map some := by
  have length : t.slots.length = t.columns.length := by simp [slots]
  refine List.ext_getElem (by simp [length]) fun i hi hi' => ?_
  rw [List.length_map, List.length_map] at hi
  simp only [List.getElem_map, slot?, h.columnIndex?_getElem hi]
  simp [slots]

/-- **The names of all columns, in any order and case, lead to the slots of all columns.** -/
theorem assignsOnce (h : t.Proper) (same : SameNames recorded (t.columns.map Column.name)) :
    t.AssignsOnce recorded := by
  have lowered : ∀ names : List String, (names.map lower).map t.slot? = names.map t.slot? :=
    fun names => by
      rw [List.map_map]
      exact List.map_congr_left fun name _ => t.slot?_lower name
  have leads : (recorded.map t.slot?).Perm (t.slots.map some) := by
    have mapped := same.map t.slot?
    rwa [lowered, lowered, map_slot? h] at mapped
  have named : ∀ c ∈ recorded, NulFree c := by
    intro c hc
    obtain ⟨l, hl, lower_eq⟩ := List.mem_map.mp (same.subset (List.mem_map_of_mem hc))
    obtain ⟨column, hcolumn, rfl⟩ := List.mem_map.mp hl
    exact (h.columnNames column hcolumn).of_lower lower_eq
  have nonempty : recorded ≠ [] := by
    rintro rfl
    have length := same.length_eq
    simp only [List.map_nil, List.length_nil, List.length_map] at length
    exact h.nonempty (List.length_eq_zero_iff.mp length.symm)
  obtain ⟨es, parsed, refers⟩ :=
    Sql.exists_parsed_insertSql t.name recorded nonempty h.name named
  obtain ⟨slot, found⟩ : ∃ slot : String → Slot, ∀ c ∈ recorded, t.slot? c = some (slot c) := by
    refine ⟨fun c => (t.slot? c).getD .rowId, fun c hc => ?_⟩
    obtain ⟨p, -, there⟩ := List.mem_map.mp (leads.subset (List.mem_map_of_mem hc))
    simp only [← there, Option.getD_some]
  refine ⟨es, parsed, refers, recorded.map slot, mapM_of_ok fun c hc => ?_, ?_⟩
  · rw [found c hc]
  · rw [List.map_congr_left found, ← Function.comp_def some slot, ← List.map_map] at leads
    exact (List.map_perm_map_iff (fun _ _ => Option.some.inj)).mp leads

end Engine.Table

/-! ## The check -/

section Check

variable {table : String} {recorded live : List String} {rows : List (List Json)}

theorem Document.badRow?_eq_none_iff {expected start : Nat} :
    Document.badRow? expected start rows = none ↔ ∀ row ∈ rows, row.length = expected := by
  induction rows generalizing start with
  | nil => exact iff_of_true rfl fun row hr => absurd hr List.not_mem_nil
  | cons row rows ih =>
    unfold Document.badRow?
    rw [List.forall_mem_cons]
    split
    · rename_i fits
      exact ih.trans (iff_of_eq (by rw [eq_true fits, true_and]))
    · rename_i unfit
      exact iff_of_false nofun fun h => unfit h.1

/-- What the check accepts: as many columns as the table has, which are columns of the table, and
rows of that size. -/
theorem checkColumns_eq_ok_iff : checkColumns table recorded live rows = .ok () ↔
    live ≠ [] ∧ recorded.length = live.length ∧
      (∀ c ∈ recorded, ∃ l ∈ live, sameName c l = true) ∧
        ∀ row ∈ rows, row.length = recorded.length := by
  have known : (recorded.find? fun c => !live.any (sameName c)) = none ↔
      ∀ c ∈ recorded, ∃ l ∈ live, sameName c l = true := by
    simp only [List.find?_eq_none, Bool.not_eq_true', Bool.not_eq_false, List.any_eq_true]
  have sized : Document.badRow? recorded.length 0 rows = none ↔
      ∀ row ∈ rows, row.length = recorded.length := Document.badRow?_eq_none_iff
  rw [← known, ← sized, ne_eq, ← List.isEmpty_iff]
  unfold checkColumns
  split
  · rename_i empty
    exact iff_of_false nofun fun h => h.1 empty
  split
  · rename_i filled differ
    exact iff_of_false nofun fun h => differ h.2.1
  rename_i filled length
  split
  · rename_i column unknown
    rw [unknown]
    exact iff_of_false nofun fun h => nomatch h.2.2.1
  rename_i none
  rw [none]
  split
  · rename_i bad unfit
    rw [unfit]
    exact iff_of_false nofun fun h => nomatch h.2.2.2
  · rename_i fits
    exact iff_of_true rfl ⟨filled, Decidable.not_not.mp length, rfl, fits⟩

/-- A list of recorded columns that repeats itself, and is accepted nevertheless: it has as many
columns as the table, all of them columns of the table, and rows of that size. -/
structure Mistaken (recorded live : List String) (rows : List (List Json)) : Prop where
  repeated : ¬ Named.Distinct id recorded
  length : recorded.length = live.length
  known : ∀ c ∈ recorded, ∃ l ∈ live, sameName c l = true
  sized : ∀ row ∈ rows, row.length = recorded.length

/-- The check lets exactly those rows pass that are recorded with the columns of the table, in any
order and case, and with a value for each of them; and what passes is inserted with a value of its
own for each column of the table. -/
structure ChecksColumns (table : String) (recorded live : List String) (rows : List (List Json)) :
    Prop where
  exact : checkColumns table recorded live rows = .ok () ↔
    SameNames recorded live ∧ ∀ row ∈ rows, row.length = recorded.length
  assigns : checkColumns table recorded live rows = .ok () →
    ∀ t : Table, t.Proper → t.columns.map Column.name = live → t.AssignsOnce recorded

/-- **The check of columns is exact unless it takes columns that are recorded twice for those of
the table.** -/
theorem checksColumns_iff (table : String) (recorded : List String) (rows : List (List Json))
    (nonempty : live ≠ []) (distinct : Named.Distinct id live) :
    ChecksColumns table recorded live rows ↔ ¬ Mistaken recorded live rows := by
  constructor
  · intro checks mistaken
    have accepted : checkColumns table recorded live rows = .ok () :=
      checkColumns_eq_ok_iff.mpr ⟨nonempty, mistaken.length, mistaken.known, mistaken.sized⟩
    obtain ⟨-, -, once⟩ := (sameNames_iff distinct).mp (checks.exact.mp accepted).1
    exact mistaken.repeated once
  · intro right
    have same (accepted : checkColumns table recorded live rows = .ok ()) :
        SameNames recorded live ∧ ∀ row ∈ rows, row.length = recorded.length := by
      obtain ⟨-, length, known, sized⟩ := checkColumns_eq_ok_iff.mp accepted
      have once : Named.Distinct id recorded := by
        by_contra repeated
        exact right ⟨repeated, length, known, sized⟩
      exact ⟨(sameNames_iff distinct).mpr ⟨length, known, once⟩, sized⟩
    refine ⟨⟨same, fun h => ?_⟩, fun accepted t proper names => ?_⟩
    · obtain ⟨length, known, -⟩ := (sameNames_iff distinct).mp h.1
      exact checkColumns_eq_ok_iff.mpr ⟨nonempty, length, known, h.2⟩
    · exact Table.assignsOnce proper (names ▸ (same accepted).1)

/-- The columns of a note in another order and case are its columns. -/
theorem checksColumns_turned :
    ["title", "body"] ≠ [] ∧ Named.Distinct id ["title", "body"] ∧
      checkColumns "note" ["BODY", "title"] ["title", "body"] [[.string "dry", .null]] = .ok () ∧
        ChecksColumns "note" ["BODY", "title"] ["title", "body"] [[.string "dry", .null]] := by
  have nonempty : ["title", "body"] ≠ [] := List.cons_ne_nil _ _
  have distinct : Named.Distinct id ["title", "body"] := by
    show List.Nodup _
    decide
  refine ⟨nonempty, distinct, rfl,
    (checksColumns_iff _ _ _ nonempty distinct).mpr fun mistaken => ?_⟩
  refine mistaken.repeated ?_
  show List.Nodup _
  decide

/-- A dump with a table of notes, of which it has recorded the title twice and the body not. -/
def titledTwice : Document where
  sql := ⟨["CREATE TABLE note (title TEXT, body TEXT)"], [], [], []⟩
  tables := [("note", ["title", "TITLE"])]
  data := [("note", [[.string "rain", .string "dry"]])]
  errors := []

/-- The note is restored without a word, and without its body. -/
theorem not_checksColumns_titledTwice :
    ["title", "body"] ≠ [] ∧ Named.Distinct id ["title", "body"] ∧
      (titledTwice.restore.run (.ofDatabase .empty .epoch)).1.toOption.map Document.errors =
        some [] ∧
      (((titledTwice.restore.run (.ofDatabase .empty .epoch)).2.database.table? "note").map fun t =>
        (t.columns.map Column.name, t.rows.map fun r => r.cells.map fun c => c.toValue.text?)) =
          some (["title", "body"], [[some "rain", none]]) ∧
      checkColumns "note" ["title", "TITLE"] ["title", "body"] [[.string "rain", .string "dry"]] =
        .ok () ∧
      ¬ ChecksColumns "note" ["title", "TITLE"] ["title", "body"]
        [[.string "rain", .string "dry"]] := by
  have distinct : Named.Distinct id ["title", "body"] := by
    show List.Nodup _
    decide
  refine ⟨List.cons_ne_nil _ _, distinct, by decide +kernel, by decide +kernel, rfl,
    fun checks => ?_⟩
  obtain ⟨-, -, once⟩ := (sameNames_iff distinct).mp (checks.exact.mp rfl).1
  have nodup : List.Nodup _ := once
  revert nodup
  decide

end Check

end FilterStore
