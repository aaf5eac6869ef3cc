import Mathlib.Data.List.Nodup
import FilterStore.Proofs.Schema.Identifier

/-!
# Names that occur once

Columns, tables, indexes and triggers are kept in lists of named things, and a thing is only ever
put into such a list where one of its name stands, or at the end.  So a list in which every name
occurs once stays such a list (`Distinct.put`), and putting a thing into it replaces exactly the one
of its name (`Distinct.mem_put_iff`).

Names are looked up with the blanks around them dropped.  A name that is an identifier has none, so
looking it up finds it as it is written.
-/

namespace FilterStore

open Text (lower sameName trim)

/-! ## Names without blanks -/

/-- No blank is a letter or a numeral of any script. -/
theorem Text.not_isBlank_of_isNameChar {c : Char} (hc : isNameChar c = true) :
    isBlank c = false := by
  have beyond : ∀ n ∈ [0x85, 0xa0, 0x1680, 0x2000, 0x2001, 0x2002, 0x2003, 0x2004, 0x2005, 0x2006,
      0x2007, 0x2008, 0x2009, 0x200a, 0x2028, 0x2029, 0x202f, 0x205f, 0x3000],
      inRanges alphanumericRanges n = false := by decide +kernel
  simp only [isNameChar, isAlphanumeric, Bool.or_eq_true, beq_iff_eq] at hc
  rw [← Bool.not_eq_true]
  intro blank
  simp only [isBlank, Bool.or_eq_true, Bool.and_eq_true, decide_eq_true_eq, beq_iff_eq] at blank
  rcases hc with hc | rfl
  · split at hc
    · rw [isAlphanum_iff] at hc
      omega
    · rw [beyond c.toNat (by simp only [List.mem_cons]; omega)] at hc
      cases hc
  · exact absurd blank (by decide)

theorem Text.trim_of_isNameChar {s : String} (h : ∀ c ∈ s.toList, Text.isNameChar c = true) :
    trim s = s := by
  have solid : ∀ c ∈ s.toList, Text.isBlank c = false := fun c hc =>
    Text.not_isBlank_of_isNameChar (h c hc)
  have keep : ∀ cs : List Char, (∀ c ∈ cs, Text.isBlank c = false) →
      cs.dropWhile Text.isBlank = cs := by
    intro cs hcs
    cases cs with
    | nil => rfl
    | cons c cs => rw [List.dropWhile_cons, hcs c List.mem_cons_self, if_neg Bool.false_ne_true]
  rw [trim, Text.trimChars, Text.trimStart, keep _ solid, Text.trimEnd,
    keep _ fun c hc => solid c (List.mem_reverse.mp hc), List.reverse_reverse, String.ofList_toList]

theorem trim_of_isIdentifier {name : String} (h : isIdentifier name = true) :
    trim name = name :=
  Text.trim_of_isNameChar (isNameChar_of_sameName h (Text.sameName_refl name))

/-! ## Lists of named things -/

namespace Named

variable {α : Type} {nameOf : α → String} {x y : α} {xs : List α}

/-- No two things of a list have the same name. -/
def Distinct (nameOf : α → String) (xs : List α) : Prop :=
  (xs.map fun x => lower (nameOf x)).Nodup

theorem sameName_of_find? {name : String} (h : find? nameOf name xs = some x) :
    sameName (nameOf x) name = true := by
  have hsame := List.find?_some h
  exact hsame

theorem mem_put_self : x ∈ put nameOf x xs := by
  induction xs with
  | nil => exact List.mem_cons_self
  | cons y ys ih =>
    rw [put]
    split
    · exact List.mem_cons_self
    · exact List.mem_cons_of_mem y ih

theorem mem_put_of_mem (hy : y ∈ xs) (other : sameName (nameOf y) (nameOf x) = false) :
    y ∈ put nameOf x xs := by
  induction xs with
  | nil => cases hy
  | cons z zs ih =>
    rw [put]
    rcases List.mem_cons.mp hy with rfl | hy
    · rw [other]
      exact List.mem_cons_self
    · split
      · exact List.mem_cons_of_mem x hy
      · exact List.mem_cons_of_mem z (ih hy)

/-- What was there is there, or a thing of its name has replaced it. -/
theorem mem_put_or_sameName (hy : y ∈ xs) :
    y ∈ put nameOf x xs ∨ sameName (nameOf x) (nameOf y) = true := by
  cases same : sameName (nameOf x) (nameOf y) with
  | true => exact .inr rfl
  | false => exact .inl (mem_put_of_mem hy (by rw [Text.sameName_comm, same]))

theorem Distinct.eq_of_sameName (h : Distinct nameOf xs) (hx : x ∈ xs) (hy : y ∈ xs)
    (same : sameName (nameOf x) (nameOf y) = true) : x = y :=
  List.inj_on_of_nodup_map h hx hy (Text.sameName_iff.mp same)

/-- The thing of a name is the one that is found. -/
theorem Distinct.find?_of_sameName (h : Distinct nameOf xs) (hx : x ∈ xs) {name : String}
    (same : sameName (nameOf x) name = true) : find? nameOf name xs = some x := by
  obtain ⟨y, found⟩ : ∃ y, find? nameOf name xs = some y :=
    Option.isSome_iff_exists.mp (List.find?_isSome.mpr ⟨x, hx, same⟩)
  have named : sameName (nameOf x) (nameOf y) = true :=
    Text.sameName_trans same (by rw [Text.sameName_comm, sameName_of_find? found])
  rw [found, h.eq_of_sameName hx (mem_of_find? found) named]

theorem Distinct.filter (h : Distinct nameOf xs) (p : α → Bool) :
    Distinct nameOf (xs.filter p) :=
  h.sublist (List.filter_sublist.map _)

theorem Distinct.put (h : Distinct nameOf xs) : Distinct nameOf (put nameOf x xs) := by
  induction xs with
  | nil => exact List.nodup_singleton _
  | cons y ys ih =>
    obtain ⟨first, rest⟩ := List.nodup_cons.mp h
    rw [Named.put]
    split
    · rename_i same
      refine List.nodup_cons.mpr ⟨?_, rest⟩
      show lower (nameOf x) ∉ _
      rw [← Text.sameName_iff.mp same]
      exact first
    · rename_i other
      refine List.nodup_cons.mpr ⟨fun clash => ?_, ih rest⟩
      obtain ⟨z, hz, same⟩ := List.mem_map.mp clash
      rcases eq_or_mem_of_mem_put hz with rfl | hz
      · exact other (Text.sameName_iff.mpr same.symm)
      · exact first (List.mem_map.mpr ⟨z, hz, same⟩)

/-- **Putting a thing into a list replaces the one of its name and nothing else.** -/
theorem Distinct.mem_put_iff (h : Distinct nameOf xs) :
    y ∈ Named.put nameOf x xs ↔ y = x ∨ y ∈ xs ∧ sameName (nameOf y) (nameOf x) = false := by
  constructor
  · intro hy
    rcases eq_or_mem_of_mem_put hy with rfl | old
    · exact .inl rfl
    · cases same : sameName (nameOf y) (nameOf x) with
      | false => exact .inr ⟨old, rfl⟩
      | true => exact .inl (h.put.eq_of_sameName hy mem_put_self same)
  · rintro (rfl | ⟨old, other⟩)
    · exact mem_put_self
    · exact mem_put_of_mem old other

end Named

end FilterStore
