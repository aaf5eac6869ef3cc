import FilterStore.Proofs.Dump.Load
import Mathlib.Algebra.Group.Nat.Defs

/-!
# Rows that can be restored

A dump holds no numbers of rows but those that stand in a column.  So the rows of a table without
such a column get new numbers, counted from one, and whatever is asked of the rows of a table is
asked of them under their new numbers (`Engine.Table.restored`).

If the rows of a table are as the engine keeps them, and fulfil the constraints under those numbers,
then the empty table takes them one after the other (`Engine.Table.Sound.takes`).
-/

namespace FilterStore

open Engine (Row Table Uniqueness World bound isBroken same stored)

namespace Engine.Table

/-- The rows of a table as they are restored. -/
def restored (t : Table) : List Row :=
  if t.rowIdColumn?.isSome then t.rows
  else t.rows.zipIdx.map fun (row, i) => { row with id := Int64.ofNat (i + 1) }

/-- The rows of a table are as the engine keeps them, and fulfil its constraints as they are
restored, whatever else an expression may see. -/
structure Sound (t : Table) (us : List Uniqueness) : Prop where
  width : ∀ row ∈ t.rows, row.cells.length = t.columns.length
  leaning : ∀ row ∈ t.rows, ∀ p ∈ t.columns.zip row.cells, stored p.1.affinity p.2 = p.2
  /-- What is no number is not kept as one. -/
  plain : ∀ row ∈ t.rows, ∀ cell ∈ row.cells, bound cell = cell
  present : ∀ row ∈ t.rows, ∀ p ∈ t.columns.zip row.cells, p.1.notNull = true →
    same p.2 .null = false
  numbered : ∀ row ∈ t.rows, ∀ i, t.rowIdColumn? = some i →
    row.cells[i]? = some (.integer row.id)
  sorted : t.rows.Pairwise fun a b => a.id < b.id
  few : t.rows.length < 2 ^ 63
  default : ∀ i column, t.rowIdColumn? = some i → t.columns[i]? = some column →
    ∀ w, ∃ cell, Table.defaultCell w column = .ok cell
  holds : ∀ row ∈ t.restored, ∀ w, ∀ check ∈ t.parts.checks,
    isBroken w [t.frame row] check.expr = .ok false
  alone : ∀ before row after, t.restored = before ++ row :: after →
    ∀ w, ∀ u ∈ us, u.rival? w t row before = .ok none

variable {t : Table}

theorem restored_of_some {i : Nat} (h : t.rowIdColumn? = some i) : t.restored = t.rows := by
  unfold restored
  rw [h]
  rfl

theorem restored_of_none (h : t.rowIdColumn? = none) :
    t.restored = t.rows.zipIdx.map fun (row, i) => { row with id := Int64.ofNat (i + 1) } := by
  unfold restored
  rw [h]
  rfl

/-- Restoring changes no cell. -/
theorem cells_restored (t : Table) : t.restored.map Row.cells = t.rows.map Row.cells := by
  unfold restored
  split
  · rfl
  · rw [List.map_map]
    refine List.ext_getElem (by simp) fun i hi hi' => ?_
    simp

/-- Every row that is restored has the cells of a row. -/
theorem exists_of_mem_restored {row : Row} (h : row ∈ t.restored) :
    ∃ r ∈ t.rows, r.cells = row.cells := by
  have cells := List.mem_map_of_mem (f := Row.cells) h
  rw [cells_restored] at cells
  obtain ⟨r, hr, same⟩ := List.mem_map.mp cells
  exact ⟨r, hr, same⟩

section Numbers

variable (h : t.rowIdColumn? = none) {before after : List Row} {row : Row}
  (split : t.restored = before ++ row :: after)

include h split

/-- New numbers are counted from one. -/
theorem id_of_restored : row.id = Int64.ofNat (before.length + 1) := by
  have found : t.restored[before.length]? = some row := by
    rw [split, List.getElem?_append_right (Nat.le_refl _), Nat.sub_self]
    rfl
  rw [restored_of_none h, List.getElem?_map, Option.map_eq_some_iff] at found
  obtain ⟨⟨r, i⟩, place, rfl⟩ := found
  rw [List.getElem?_zipIdx, Option.map_eq_some_iff] at place
  obtain ⟨_, _, same⟩ := place
  cases same
  simp

theorem length_before : before.length + 1 ≤ t.rows.length := by
  have length := congrArg List.length (restored_of_none h)
  rw [split, List.length_map, List.length_zipIdx, List.length_append, List.length_cons] at length
  omega

/-- The greatest number so far is how many rows there are. -/
theorem greatestId_before :
    ({ t with rows := before } : Table).greatestId = Int64.ofNat before.length := by
  unfold greatestId
  rcases List.eq_nil_or_concat before with rfl | ⟨first, last, rfl⟩
  · rfl
  · rw [List.concat_eq_append] at split ⊢
    have number := id_of_restored h (split.trans (List.append_assoc ..))
    simp [number]

end Numbers

/-- Restored rows stand in the order of their numbers. -/
theorem Sound.lt_of_before {us : List Uniqueness} (h : t.Sound us) {before after : List Row}
    {row : Row} (split : t.restored = before ++ row :: after) {r : Row} (hr : r ∈ before) :
    r.id < row.id := by
  rcases place : t.rowIdColumn? with _ | i
  · obtain ⟨first, rest, rfl⟩ := List.append_of_mem hr
    have number := id_of_restored place split
    have earlier := id_of_restored place (split.trans (List.append_assoc ..))
    have few := (length_before place split).trans_lt h.few
    rw [List.length_append, List.length_cons] at number few
    rw [number, earlier, Int64.lt_iff_toInt_lt, Int64.toInt_ofNat_of_lt (by omega),
      Int64.toInt_ofNat_of_lt (by omega)]
    omega
  · have sorted := h.sorted
    rw [← restored_of_some place, split] at sorted
    exact (List.pairwise_append.mp sorted).2.2 r hr row List.mem_cons_self

/-- The empty table takes the rows as they are restored. -/
theorem Sound.takes {us : List Uniqueness} (h : t.Sound us)
    (finite : ∀ row ∈ t.rows, ∀ cell ∈ row.cells, cell.IsFinite) : t.bare.Takes us t.restored where
  finite row hr cell hc := by
    obtain ⟨r, mem, cells⟩ := exists_of_mem_restored hr
    rw [← cells] at hc
    exact ⟨finite r mem cell hc, h.plain r mem cell hc⟩
  admits before row after split := by
    have mem : row ∈ t.restored := by simp [split]
    obtain ⟨r, hr, cells⟩ := exists_of_mem_restored mem
    have same : t.rowIdColumn?.isSome → row ∈ t.rows := fun some => by
      obtain ⟨i, place⟩ := Option.isSome_iff_exists.mp some
      exact restored_of_some place ▸ mem
    rw [show t.bare.rows ++ before = before from List.nil_append before]
    constructor
    case width => exact cells ▸ h.width r hr
    case leaning => exact cells ▸ h.leaning r hr
    case present => exact cells ▸ h.present r hr
    case numbered => exact fun i place => h.numbered row (same (place ▸ rfl)) i place
    case next =>
      intro (place : t.rowIdColumn? = none)
      have few := (length_before place split).trans_lt h.few
      have greatest := greatestId_before place split
      refine ⟨fun full => ?_, ?_⟩
      · have number := congrArg Int64.toInt (greatest.symm.trans full)
        rw [Int64.toInt_ofNat_of_lt (by omega), Int64.toInt_maxValue] at number
        omega
      · rw [id_of_restored place split, Int64.ofNat_add]
        exact congrArg (· + 1) greatest.symm
    case above => exact fun r hr => h.lt_of_before split hr
    case default => exact h.default
    case holds => exact h.holds row mem
    case alone => exact h.alone before row after split

end Engine.Table

end FilterStore
