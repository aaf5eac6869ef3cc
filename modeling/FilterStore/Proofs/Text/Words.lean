import Mathlib.Logic.Relation
import FilterStore.Proofs.Text.Trim

/-!
# Words and their spelling

The words of a text are what stands between its blanks.  A blank ends a word and starts another, so
the words around a blank are those on its left and those on its right (`wordsOf_append_blank`).
That is why blanks at the ends of a text make no difference, and one blank is as good as two.
Lowering letters makes no blank, so it lowers the words and leaves their number.
-/

namespace FilterStore.Text

/-! ## Case -/

theorem toList_lower (s : String) : (lower s).toList = s.toList.map Char.toLower :=
  String.toList_ofList

/-- Only the letters from `A` to `Z` are lowered, and those are raised to what they were. -/
theorem toUpper_toLower (c : Char) : c.toLower.toUpper = c.toUpper := by
  by_cases letter : 65 ≤ c.toNat ∧ c.toNat ≤ 90
  · have letters : ∀ n < 91, 65 ≤ n →
        (Char.ofNat n).toLower.toUpper = (Char.ofNat n).toUpper := by decide
    have raised := letters c.toNat (by omega) letter.1
    rwa [Char.ofNat_toNat] at raised
  · have stays : c.toLower = c := by rw [← Char.toNat_inj, toNat_toLower, if_neg letter]
    rw [stays]

/-! ## Words -/

/-- The words of a text as lists of characters. -/
def wordsOf (cs : List Char) : List (List Char) :=
  (cs.splitOnP isBlank).filter fun w => !w.isEmpty

theorem words_eq (s : String) : words s = (wordsOf s.toList).map String.ofList := rfl

/-- **A blank ends a word and starts another.** -/
theorem wordsOf_append_blank (before after : List Char) {b : Char} (hb : isBlank b = true) :
    wordsOf (before ++ b :: after) = wordsOf before ++ wordsOf after := by
  rw [wordsOf, List.splitOnP_append_cons _ _ hb, List.filter_append, ← wordsOf, ← wordsOf]

@[simp] theorem wordsOf_nil : wordsOf [] = [] := rfl

theorem splitOnP_map_toLower (cs : List Char) :
    (cs.map Char.toLower).splitOnP isBlank = (cs.splitOnP isBlank).map (List.map Char.toLower) := by
  induction cs with
  | nil => rfl
  | cons c cs ih =>
    rw [List.map_cons, List.splitOnP_cons_eq_if_modifyHead, List.splitOnP_cons_eq_if_modifyHead,
      isBlank_toLower, ih]
    split
    · rfl
    · cases cs.splitOnP isBlank with
      | nil => rfl
      | cons w ws => rfl

/-- Characters are changed in the words and between them. -/
theorem map_intercalate (f : Char → Char) (separator : List Char) (ws : List (List Char)) :
    (separator.intercalate ws).map f = (separator.map f).intercalate (ws.map (List.map f)) := by
  induction ws with
  | nil => rfl
  | cons w ws ih =>
    cases ws with
    | nil =>
      rw [List.map_singleton, List.intercalate_singleton, List.intercalate_singleton]
    | cons w' ws =>
      simp only [List.map_cons] at ih ⊢
      rw [List.intercalate_cons_cons, List.intercalate_cons_cons, List.map_append, List.map_append,
        ih]

/-- The words of a lowered text are the lowered words. -/
theorem wordsOf_map_toLower (cs : List Char) :
    wordsOf (cs.map Char.toLower) = (wordsOf cs).map (List.map Char.toLower) := by
  rw [wordsOf, splitOnP_map_toLower, List.filter_map, wordsOf]
  congr 2
  funext w
  cases w <;> rfl

/-! ## Changes of spelling -/

/-- A change of spelling that keeps the words of a text: letters change their case, a blank comes to
one of the ends, or a blank between words becomes two. -/
inductive Respacing : List Char → List Char → Prop
  | recase {cs ds : List Char} (h : cs.map Char.toLower = ds.map Char.toLower) : Respacing cs ds
  | lead (cs : List Char) {b : Char} (hb : isBlank b = true) : Respacing cs (b :: cs)
  | trail (cs : List Char) {b : Char} (hb : isBlank b = true) : Respacing cs (cs ++ [b])
  | widen (before after : List Char) {a b c : Char} (ha : isBlank a = true)
    (hb : isBlank b = true) (hc : isBlank c = true) :
    Respacing (before ++ a :: after) (before ++ b :: c :: after)

/-- The words of a text in small letters. -/
def loweredWords (cs : List Char) : List (List Char) := (wordsOf cs).map (List.map Char.toLower)

theorem Respacing.loweredWords {cs ds : List Char} (h : Respacing cs ds) :
    loweredWords cs = loweredWords ds := by
  unfold Text.loweredWords
  cases h with
  | recase h => rw [← wordsOf_map_toLower, ← wordsOf_map_toLower, h]
  | lead cs hb =>
    have split := wordsOf_append_blank [] cs hb
    rw [List.nil_append] at split
    rw [split, wordsOf_nil, List.nil_append]
  | trail cs hb => rw [wordsOf_append_blank cs [] hb, wordsOf_nil, List.append_nil]
  | widen before after ha hb hc =>
    have second := wordsOf_append_blank [] after hc
    rw [List.nil_append, wordsOf_nil, List.nil_append] at second
    rw [wordsOf_append_blank before after ha, wordsOf_append_blank before _ hb, second]

/-- **The words stay up to case, however often a text changes its spelling.** -/
theorem loweredWords_of_eqvGen {cs ds : List Char} (h : Relation.EqvGen Respacing cs ds) :
    loweredWords cs = loweredWords ds := by
  induction h with
  | rel _ _ h => exact h.loweredWords
  | refl _ => rfl
  | symm _ _ _ ih => exact ih.symm
  | trans _ _ _ _ _ ih ih' => exact ih.trans ih'

end FilterStore.Text
