import FilterStore.Migration.VersionTable

/-!
# The greatest version

The version of a database is the greatest one in its ledger.  A version that is above the greatest
is the greatest when it is added, so the record follows a ledger to which versions are added in
order.
-/

namespace FilterStore

open Engine (present greater)

namespace VersionTable

/-- The greatest of some cells, nulls aside. -/
def greatest (cs : List Cell) : Cell :=
  match present cs with
  | [] => .null
  | c :: cs => cs.foldl (greater .binary) c

/-- This is what the engine answers when it is asked for the greatest version. -/
theorem applyAggregate_max (cs : List Cell) :
    Engine.applyAggregate .binary .max cs = .ok (greatest cs) := by
  unfold Engine.applyAggregate greatest
  cases present cs <;> rfl

theorem present_append_integer (cs : List Cell) (v : Int64) :
    present (cs ++ [.integer v]) = present cs ++ [.integer v] := by
  have kept : Engine.same (.integer v) .null = false := rfl
  simp [present, kept]

@[simp] theorem greatest_singleton (v : Int64) : greatest [.integer v] = .integer v := by
  have kept := present_append_integer [] v
  rw [List.nil_append] at kept
  unfold greatest
  rw [kept]
  rfl

/-- A version above the greatest one is the greatest one. -/
theorem greatest_append {cs : List Cell} {n v : Int64} (h : greatest cs = .integer n)
    (hv : n < v) : greatest (cs ++ [.integer v]) = .integer v := by
  have above : Engine.orderBy .binary (.integer n) (.integer v) = .lt :=
    Int.compare_eq_lt.mpr (Int64.lt_iff_toInt_lt.mp hv)
  unfold greatest at h ⊢
  rw [present_append_integer]
  generalize present cs = present at h ⊢
  cases present with
  | nil => rfl
  | cons c cs =>
    simp only [List.cons_append, List.foldl_append, List.foldl_cons, List.foldl_nil] at h ⊢
    rw [h]
    simp [greater, above]

/-- Versions that ascend from the greatest one leave the last of them the greatest. -/
theorem greatest_append_ascending {cs : List Cell} {n : Int64} {vs : List Int64}
    (h : greatest cs = .integer n) (asc : (n :: vs).Pairwise (· < ·)) :
    greatest (cs ++ vs.map .integer) = .integer (vs.getLast?.getD n) := by
  induction vs generalizing cs n with
  | nil => simpa using h
  | cons v vs ih =>
    obtain ⟨above, rest⟩ := List.pairwise_cons.mp asc
    have last := ih (greatest_append h (above v List.mem_cons_self)) rest
    rw [List.append_assoc] at last
    refine last.trans ?_
    rw [List.getLast?_cons, Option.getD_some]

/-- The greatest of versions that ascend is the last. -/
theorem greatest_of_ascending {vs : List Int64} {w : Int64} (asc : vs.Pairwise (· < ·))
    (h : vs.getLast? = some w) : greatest (vs.map .integer) = .integer w := by
  cases vs with
  | nil => cases h
  | cons v vs =>
    refine (greatest_append_ascending (greatest_singleton v) asc).trans ?_
    rw [List.getLast?_cons, Option.some.injEq] at h
    rw [h]

/-! ## What is below the greatest version -/

theorem greater_integer (a b : Int64) :
    greater .binary (.integer a) (.integer b) = .integer (if a < b then b else a) := by
  have order : Engine.orderBy .binary (.integer a) (.integer b) = compare a.toInt b.toInt := rfl
  unfold greater
  rw [order]
  by_cases less : a < b
  · have lt : compare a.toInt b.toInt = .lt := Int.compare_eq_lt.mpr (Int64.lt_iff_toInt_lt.mp less)
    simp [lt, less]
  · have ge : compare a.toInt b.toInt ≠ .lt := fun lt =>
      less (Int64.lt_iff_toInt_lt.mpr (Int.compare_eq_lt.mp lt))
    simp [ge, less]

theorem exists_foldl_greater (a : Int64) (ns : List Int64) :
    ∃ b, (ns.map .integer).foldl (greater .binary) (.integer a) = .integer b ∧ a ≤ b ∧
      ∀ m ∈ ns, m ≤ b := by
  induction ns generalizing a with
  | nil => exact ⟨a, rfl, Int64.le_refl a, fun m hm => by cases hm⟩
  | cons n ns ih =>
    obtain ⟨b, hb, le, above⟩ := ih (if a < n then n else a)
    rw [List.map_cons, List.foldl_cons, greater_integer]
    have both : a ≤ b ∧ n ≤ b := by
      split at le
      case isTrue less => exact ⟨Int64.le_trans (Int64.le_of_lt less) le, le⟩
      case isFalse less => exact ⟨le, Int64.le_trans (Int64.not_lt.mp less) le⟩
    refine ⟨b, hb, both.1, fun m hm => ?_⟩
    rcases List.mem_cons.mp hm with rfl | hm
    · exact both.2
    · exact above m hm

theorem present_integers (ns : List Int64) :
    present (ns.map .integer) = ns.map .integer := by
  refine List.filter_eq_self.mpr fun c hc => ?_
  obtain ⟨n, -, rfl⟩ := List.mem_map.mp hc
  rfl

/-- No version is above the greatest one. -/
theorem le_greatest {ns : List Int64} {n : Int64} (h : greatest (ns.map .integer) = .integer n) :
    ∀ m ∈ ns, m ≤ n := by
  unfold greatest at h
  rw [present_integers] at h
  cases ns with
  | nil => exact fun m hm => by cases hm
  | cons k ns =>
    obtain ⟨b, hb, le, above⟩ := exists_foldl_greater k ns
    obtain rfl : b = n := Cell.integer.inj (hb.symm.trans h)
    intro m hm
    rcases List.mem_cons.mp hm with rfl | hm
    · exact le
    · exact above m hm

end VersionTable

open VersionTable (greatest)

/-- What is recorded by a ledger with some versions, or by none. -/
def Recorded.ofCells : Option (List Cell) → Recorded
  | none => .missing
  | some cs => VersionTable.recordedOf (greatest cs)

theorem Recorded.ofCells_eq_version_iff {cs : List Cell} {v : Int64} :
    Recorded.ofCells (some cs) = .version v ↔ greatest cs = .integer v ∧ 0 ≤ v := by
  show VersionTable.recordedOf (greatest cs) = .version v ↔ _
  cases greatest cs with
  | integer n =>
    simp only [VersionTable.recordedOf, Cell.integer.injEq]
    grind
  | null | real _ | text _ | blob _ => simp [VersionTable.recordedOf]

end FilterStore
