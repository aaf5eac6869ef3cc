import FilterStore.Proofs.Schema.Reachable
import FilterStore.Proofs.Text.Trim

/-!
# The characters of names

Names of tables and columns are written into statements as they are, so what they are made of
matters.  A name has letters, numerals and underscores.  Which characters beyond ASCII those are
does not matter here, because everything that means something to SQL is ASCII: a character of a name
is a *word character*, one of the ASCII letters and digits, an underscore, or any character beyond
ASCII.

A clause gives its column in any case and with blanks around it, and the column is written in small
letters.  It is the name of a registered column in small letters, and lowering keeps word
characters.

Where it does matter which characters there are, a name is made of *name characters*: letters and
numerals of any script, and underscores.  Changing the case of ASCII letters keeps those as well.
-/

namespace FilterStore

namespace Text

/-- Whether a character is an ASCII letter or digit, an underscore, or no ASCII character. -/
def isWordChar (c : Char) : Bool := 128 ≤ c.toNat || c.isAlphanum || c == '_'

theorem isAlphanum_iff {c : Char} :
    c.isAlphanum = true ↔ (65 ≤ c.toNat ∧ c.toNat ≤ 90) ∨ (97 ≤ c.toNat ∧ c.toNat ≤ 122) ∨
      (48 ≤ c.toNat ∧ c.toNat ≤ 57) := by
  have hupper : c.isUpper = true ↔ 65 ≤ c.toNat ∧ c.toNat ≤ 90 :=
    decide_eq_true_iff
  have hlower : c.isLower = true ↔ 97 ≤ c.toNat ∧ c.toNat ≤ 122 :=
    Bool.and_eq_true_iff.trans (and_congr decide_eq_true_iff decide_eq_true_iff)
  have hdigit : c.isDigit = true ↔ 48 ≤ c.toNat ∧ c.toNat ≤ 57 :=
    Bool.and_eq_true_iff.trans (and_congr decide_eq_true_iff decide_eq_true_iff)
  have halphanum : c.isAlphanum = (c.isUpper || c.isLower || c.isDigit) := rfl
  simp only [halphanum, Bool.or_eq_true, hupper, hlower, hdigit, or_assoc]

theorem isWordChar_iff {c : Char} :
    isWordChar c = true ↔ 128 ≤ c.toNat ∨ (65 ≤ c.toNat ∧ c.toNat ≤ 90) ∨
      (97 ≤ c.toNat ∧ c.toNat ≤ 122) ∨ (48 ≤ c.toNat ∧ c.toNat ≤ 57) ∨ c.toNat = 95 := by
  have hscore : c = '_' ↔ c.toNat = 95 := by
    rw [← Char.toNat_inj]
    rfl
  simp only [isWordChar, Bool.or_eq_true, decide_eq_true_eq, beq_iff_eq, hscore, isAlphanum_iff,
    or_assoc]

theorem isWordChar_toLower (c : Char) : isWordChar c.toLower = isWordChar c := by
  rw [Bool.eq_iff_iff, isWordChar_iff, isWordChar_iff, toNat_toLower]
  split <;> omega

/-- Whether a character is a letter or a numeral of any script, or an underscore. -/
def isNameChar (c : Char) : Bool := isAlphanumeric c || c == '_'

theorem isNameChar_of_isAlphanum {c : Char} (hc : c.isAlphanum = true) : isNameChar c = true := by
  have hascii : c.toNat < 128 := by
    rw [isAlphanum_iff] at hc
    omega
  simp only [isNameChar, isAlphanumeric, if_pos hascii, hc, Bool.true_or]

theorem isNameChar_toLower (c : Char) : isNameChar c.toLower = isNameChar c := by
  by_cases hascii : c.toNat < 128
  · have hlowered : c.toLower.toNat < 128 := by
      rw [toNat_toLower]
      split <;> omega
    have hscore : ∀ d : Char, d = '_' ↔ d.toNat = 95 := fun d => by
      rw [← Char.toNat_inj]
      rfl
    simp only [isNameChar, isAlphanumeric, if_pos hascii, if_pos hlowered]
    rw [Bool.eq_iff_iff]
    simp only [Bool.or_eq_true, beq_iff_eq, hscore, isAlphanum_iff, toNat_toLower]
    split <;> omega
  · -- Beyond ASCII nothing is lowered.
    have hsame : c.toLower = c := by
      rw [← Char.toNat_inj, toNat_toLower, if_neg]
      omega
    rw [hsame]

/-- A text of word characters, at least one. -/
structure IsWord (s : String) : Prop where
  ne_empty : s ≠ ""
  chars : ∀ c ∈ s.toList, isWordChar c = true

theorem IsWord.lower {s : String} (h : IsWord s) : IsWord (lower s) where
  ne_empty := by
    intro hempty
    have hchars := congrArg String.toList hempty
    rw [Text.lower, String.toList_ofList, String.toList_empty, List.map_eq_nil_iff] at hchars
    exact h.ne_empty (String.toList_eq_nil_iff.mp hchars)
  chars := by
    intro c hc
    rw [Text.lower, String.toList_ofList, List.mem_map] at hc
    obtain ⟨d, hd, rfl⟩ := hc
    rw [isWordChar_toLower]
    exact h.chars d hd

/-- Lowered letters stay as they are. -/
@[simp] theorem lower_lower (s : String) : lower (lower s) = lower s := by
  have hchar : ∀ c : Char, c.toLower.toLower = c.toLower := by
    intro c
    rw [← Char.toNat_inj, toNat_toLower c.toLower, if_neg]
    rw [toNat_toLower]
    split <;> omega
  simp only [lower, String.toList_ofList, List.map_map, Function.comp_def, hchar]

end Text

open Text (IsWord lower trim)

/-- Identifiers are words. -/
theorem isWord_of_isIdentifier {name : String} (h : isIdentifier name = true) : IsWord name := by
  simp only [isIdentifier, Bool.and_eq_true, Bool.not_eq_true', List.all_eq_true] at h
  obtain ⟨hempty, hchars⟩ := h
  refine ⟨fun hname => ?_, fun c hc => ?_⟩
  · rw [hname] at hempty
    cases hempty
  · have halphanumeric : Text.isAlphanumeric c = true → 128 ≤ c.toNat ∨ c.isAlphanum = true := by
      intro hc
      by_cases hascii : c.toNat < 128
      · rw [Text.isAlphanumeric, if_pos hascii] at hc
        exact .inr hc
      · exact .inl (Nat.le_of_not_lt hascii)
    have h := hchars c hc
    rw [Bool.or_eq_true] at h
    simp only [Text.isWordChar, Bool.or_eq_true, decide_eq_true_eq]
    exact h.imp_left halphanumeric

/-- What is the same as an identifier up to the case of ASCII letters is made of name characters. -/
theorem isNameChar_of_sameName {s name : String} (hname : isIdentifier name = true)
    (hsame : Text.sameName s name = true) : ∀ c ∈ s.toList, Text.isNameChar c = true := by
  simp only [isIdentifier, Bool.and_eq_true, List.all_eq_true] at hname
  rw [Text.sameName_iff] at hsame
  have hlowered : s.toList.map Char.toLower = name.toList.map Char.toLower := by
    have h := congrArg String.toList hsame
    rwa [lower, lower, String.toList_ofList, String.toList_ofList] at h
  intro c hc
  have hmem : c.toLower ∈ name.toList.map Char.toLower := hlowered ▸ List.mem_map_of_mem hc
  obtain ⟨d, hd, heq⟩ := List.mem_map.mp hmem
  rw [← Text.isNameChar_toLower, ← heq, Text.isNameChar_toLower]
  exact hname.2 d hd

/-- The column that a clause addresses is written as the registered name in small letters. -/
theorem TableDefinition.column?_lower {t : TableDefinition} {s : String} {d : ColumnDefinition}
    (h : t.column? (lower (trim s)) = some d) : d ∈ t.columns ∧ lower (trim s) = lower d.name := by
  refine ⟨Named.mem_of_find? h, ?_⟩
  have hsame := List.find?_some h
  rw [Text.sameName_iff, Text.trim_lower, Text.trim_trim, Text.lower_lower] at hsame
  exact hsame.symm

end FilterStore
