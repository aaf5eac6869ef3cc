import FilterStore.Text.Letter
import Mathlib.Data.List.Basic
import Mathlib.Data.List.DropRight

/-!
# What trimming leaves

Trimming drops blanks at both ends of a text and nothing else: the text is some blanks, what is left
of it, and some blanks.  What is left neither starts nor ends with a blank, so trimming it again
changes nothing.  Lowering letters makes no blank and loses none, so it does not matter whether a
name is first trimmed or first lowered.
-/

namespace FilterStore.Text

/-- A list of blanks. -/
def AllBlank (cs : List Char) : Prop := ∀ c ∈ cs, isBlank c = true

theorem exists_trimStart_eq (cs : List Char) :
    ∃ before, AllBlank before ∧ cs = before ++ trimStart cs :=
  ⟨cs.takeWhile isBlank, fun c hc => List.all_eq_true.mp List.all_takeWhile c hc,
    (List.takeWhile_append_dropWhile ..).symm⟩

theorem exists_trimEnd_eq (cs : List Char) :
    ∃ after, AllBlank after ∧ cs = trimEnd cs ++ after := by
  obtain ⟨before, hblank, heq⟩ := exists_trimStart_eq cs.reverse
  refine ⟨before.reverse, fun c hc => hblank c (List.mem_reverse.mp hc), ?_⟩
  have h := congrArg List.reverse heq
  rwa [List.reverse_reverse, List.reverse_append] at h

/-- **A text is what trimming leaves of it, with blanks around.** -/
theorem exists_trimChars_eq (cs : List Char) :
    ∃ before after, AllBlank before ∧ AllBlank after ∧ cs = before ++ (trimChars cs ++ after) := by
  obtain ⟨before, hbefore, heq⟩ := exists_trimStart_eq cs
  obtain ⟨after, hafter, hend⟩ := exists_trimEnd_eq (trimStart cs)
  refine ⟨before, after, hbefore, hafter, ?_⟩
  rw [trimChars, ← hend]
  exact heq

/-- What is left starts as the text did behind its blanks. -/
theorem trimStart_trimChars (cs : List Char) : trimStart (trimChars cs) = trimChars cs := by
  refine List.dropWhile_eq_self_iff.mpr fun hl => ?_
  obtain ⟨after, -, heq⟩ := exists_trimEnd_eq (trimStart cs)
  have hstart : 0 < (trimStart cs).length := by
    rw [heq, List.length_append]
    exact Nat.lt_add_right _ hl
  have hhead : (trimChars cs)[0] = (trimStart cs)[0] := by
    simp only [trimChars]
    exact (List.rdropWhile_prefix isBlank (trimStart cs)).getElem hl
  rw [hhead]
  exact List.dropWhile_get_zero_not isBlank cs hstart

theorem trimEnd_trimChars (cs : List Char) : trimEnd (trimChars cs) = trimChars cs :=
  List.rdropWhile_idempotent isBlank (trimStart cs)

/-- **Trimming twice is trimming once.** -/
theorem trim_trim (s : String) : trim (trim s) = trim s := by
  unfold trim
  rw [String.toList_ofList, trimChars, trimStart_trimChars, trimEnd_trimChars]

/-! ## Trimming and lowering -/

/-- Lowering moves the letters from `A` to `Z` and no other character. -/
theorem toNat_toLower (c : Char) :
    c.toLower.toNat = if 65 ≤ c.toNat ∧ c.toNat ≤ 90 then c.toNat + 32 else c.toNat := by
  have hrange : (c.val ≥ 'A'.val ∧ c.val ≤ 'Z'.val) ↔ (65 ≤ c.toNat ∧ c.toNat ≤ 90) := Iff.rfl
  unfold Char.toLower
  split
  · rename_i h
    rw [hrange] at h
    rw [if_pos h]
    have hval : (c.val + ('a'.val - 'A'.val)).toNat = (c.toNat + 32) % 4294967296 := rfl
    refine hval.trans (Nat.mod_eq_of_lt ?_)
    omega
  · rename_i h
    rw [hrange] at h
    rw [if_neg h]

theorem isBlank_toLower (c : Char) : isBlank c.toLower = isBlank c := by
  rw [Bool.eq_iff_iff]
  simp only [isBlank, toNat_toLower, Bool.or_eq_true, Bool.and_eq_true, decide_eq_true_eq,
    beq_iff_eq]
  split <;> omega

theorem trim_lower (s : String) : trim (lower s) = lower (trim s) := by
  have hstart : ∀ cs : List Char,
      trimStart (cs.map Char.toLower) = (trimStart cs).map Char.toLower := by
    intro cs
    rw [trimStart, List.dropWhile_map]
    simp only [trimStart, Function.comp_def, isBlank_toLower]
  have hend : ∀ cs : List Char,
      trimEnd (cs.map Char.toLower) = (trimEnd cs).map Char.toLower := by
    intro cs
    rw [trimEnd, ← List.map_reverse]
    exact (congrArg List.reverse (hstart cs.reverse)).trans List.map_reverse.symm
  simp only [trim, lower, String.toList_ofList, trimChars, hstart, hend]

/-! ## Joining texts

What is kept when texts are joined end to end is kept when they are joined with a separator.

A text is *made of* pieces of a kind if it is some of them end to end.  What the pieces of a kind
have in their characters, such a text has. -/

theorem intercalate_induct {P : String → Prop} (empty : P "")
    (append : ∀ {s t : String}, P s → P t → P (s ++ t)) {separator : String}
    (hseparator : P separator) {parts : List String} (hparts : ∀ s ∈ parts, P s) :
    P (separator.intercalate parts) := by
  induction parts with
  | nil =>
    rw [String.intercalate_nil]
    exact empty
  | cons s rest ih =>
    obtain ⟨hs, hrest⟩ := List.forall_mem_cons.mp hparts
    cases rest with
    | nil =>
      rw [String.intercalate_singleton]
      exact hs
    | cons t rest =>
      rw [String.intercalate_cons_cons]
      exact append (append hs hseparator) (ih hrest)

/-- A text that is put together from pieces of a kind. -/
def MadeOf (P : String → Prop) (s : String) : Prop :=
  ∃ pieces : List String, (∀ p ∈ pieces, P p) ∧ s = String.join pieces

namespace MadeOf

variable {P : String → Prop} {s t : String}

theorem piece (hs : P s) : MadeOf P s :=
  ⟨[s], List.forall_mem_singleton.mpr hs, by simp [String.join]⟩

theorem empty : MadeOf P "" := ⟨[], fun _ hp => absurd hp List.not_mem_nil, rfl⟩

theorem append (hs : MadeOf P s) (ht : MadeOf P t) : MadeOf P (s ++ t) := by
  obtain ⟨ps, hps, rfl⟩ := hs
  obtain ⟨qs, hqs, rfl⟩ := ht
  exact ⟨ps ++ qs, List.forall_mem_append.mpr ⟨hps, hqs⟩, String.join_append.symm⟩

theorem intercalate {separator : String} (hseparator : MadeOf P separator) {parts : List String}
    (hparts : ∀ s ∈ parts, MadeOf P s) : MadeOf P (separator.intercalate parts) :=
  intercalate_induct empty append hseparator hparts

/-- A text has no other characters than its pieces. -/
theorem chars {kind : Char → Prop} (hkind : ∀ p, P p → ∀ c ∈ p.toList, kind c)
    (hs : MadeOf P s) : ∀ c ∈ s.toList, kind c := by
  obtain ⟨pieces, hpieces, rfl⟩ := hs
  intro c hc
  rw [String.toList_join, List.mem_flatMap] at hc
  obtain ⟨p, hp, hc⟩ := hc
  exact hkind p (hpieces p hp) c hc

end MadeOf

end FilterStore.Text
