import FilterStore.Proofs.Text.Trim

/-!
# Lists written in a text

A list is written as a text with commas between its elements.  Blanks around an element do not
count, and neither does what is nothing but blanks.  So one list has many texts, and each of them is
a row of *slots* with commas between them: a slot holds blanks alone, or an element with blanks
around it.  An element is not empty, has no comma in it, and has a blank neither first nor last.

Splitting a text answers the elements of its slots.  Every text is a row of slots, and a row of slots
is read as the elements in it wherever the blanks stand, so this says of every text and every list
whether the text is split into the list (`commaList_eq_iff`).
-/

namespace FilterStore.Text

/-! ## Trimming what has blanks around -/

/-- Characters that neither start nor end with a blank. -/
structure Bare (cs : List Char) : Prop where
  head : ∀ c ∈ cs.head?, isBlank c = false
  last : ∀ c ∈ cs.getLast?, isBlank c = false

theorem trimStart_of_head {cs : List Char} (h : ∀ c ∈ cs.head?, isBlank c = false) :
    trimStart cs = cs := by
  cases cs with
  | nil => rfl
  | cons c cs => exact List.dropWhile_cons_of_neg (by simp [h c rfl])

theorem trimStart_blanks {before : List Char} (h : AllBlank before) (cs : List Char) :
    trimStart (before ++ cs) = trimStart cs :=
  List.dropWhile_append_of_pos h

theorem trimEnd_eq_reverse (cs : List Char) : trimEnd cs = (trimStart cs.reverse).reverse := rfl

theorem trimEnd_of_last {cs : List Char} (h : ∀ c ∈ cs.getLast?, isBlank c = false) :
    trimEnd cs = cs := by
  rw [trimEnd_eq_reverse, trimStart_of_head (by rwa [List.head?_reverse]), List.reverse_reverse]

theorem trimEnd_blanks (cs : List Char) {after : List Char} (h : AllBlank after) :
    trimEnd (cs ++ after) = trimEnd cs := by
  have reversed : AllBlank after.reverse := fun c hc => h c (List.mem_reverse.mp hc)
  rw [trimEnd_eq_reverse, List.reverse_append, trimStart_blanks reversed, ← trimEnd_eq_reverse]

theorem trimChars_blanks {cs : List Char} (h : AllBlank cs) : trimChars cs = [] := by
  have start := trimStart_blanks h []
  rw [List.append_nil] at start
  rw [trimChars, start]
  rfl

/-- The blanks around what has none of its own are dropped. -/
theorem trimChars_around {cs : List Char} (bare : Bare cs) {before after : List Char}
    (hbefore : AllBlank before) (hafter : AllBlank after) :
    trimChars (before ++ (cs ++ after)) = cs := by
  rw [trimChars, trimStart_blanks hbefore]
  cases cs with
  | nil =>
    have start := trimStart_blanks hafter []
    rw [List.append_nil] at start
    rw [List.nil_append, start]
    rfl
  | cons c cs =>
    have start : trimStart (c :: cs ++ after) = c :: cs ++ after :=
      trimStart_of_head fun d hd => bare.head d hd
    rw [start, trimEnd_blanks _ hafter, trimEnd_of_last bare.last]

/-- What trimming leaves has a blank neither first nor last. -/
theorem bare_trimChars (cs : List Char) : Bare (trimChars cs) := by
  have solid (ds : List Char) (h : trimStart ds = ds) : ∀ c ∈ ds.head?, isBlank c = false := by
    intro c hc
    rw [← h] at hc
    have first := List.head?_dropWhile_not isBlank ds
    rw [show (List.dropWhile isBlank ds).head? = some c from hc] at first
    simpa using first
  constructor
  · exact solid _ (trimStart_trimChars cs)
  · have reversed : trimStart (trimChars cs).reverse = (trimChars cs).reverse := by
      rw [← List.reverse_inj, List.reverse_reverse, ← trimEnd_eq_reverse, trimEnd_trimChars]
    rw [← List.head?_reverse]
    exact solid _ reversed

/-! ## Elements and slots -/

/-- What can be an element of a written list. -/
structure IsElement (e : String) : Prop where
  ne_empty : e ≠ ""
  no_comma : ',' ∉ e.toList
  bare : Bare e.toList

/-- What stands between two commas. -/
inductive Slot
  /-- Nothing but blanks. -/
  | blank (blanks : List Char) (h : AllBlank blanks)
  /-- An element, and the blanks around it. -/
  | element (before : List Char) (e : String) (after : List Char) (hbefore : AllBlank before)
    (he : IsElement e) (hafter : AllBlank after)

namespace Slot

def chars : Slot → List Char
  | blank blanks _ => blanks
  | element before e after .. => before ++ (e.toList ++ after)

def element? : Slot → Option String
  | blank .. => none
  | element _ e .. => some e

/-- Slots with commas between them. -/
def written (slots : List Slot) : String :=
  ",".intercalate (slots.map fun slot => String.ofList slot.chars)

/-- The elements in slots, in their order. -/
def elements (slots : List Slot) : List String := slots.filterMap element?

theorem toList_written (slots : List Slot) :
    (written slots).toList = [','].intercalate (slots.map chars) := by
  have comma : ",".toList = [','] := rfl
  rw [written, String.toList_intercalate, comma, List.map_map]
  congr 2
  exact funext fun slot => String.toList_ofList

theorem no_comma (slot : Slot) : ',' ∉ slot.chars := by
  have apart {cs : List Char} (h : AllBlank cs) : ',' ∉ cs := by
    intro hmem
    exact absurd (h ',' hmem) (by decide)
  cases slot with
  | blank blanks h => exact apart h
  | element before e after hbefore he hafter =>
    simp only [chars, List.mem_append, not_or]
    exact ⟨apart hbefore, he.no_comma, apart hafter⟩

/-- A slot is trimmed to its element, or to nothing. -/
theorem trimChars_chars (slot : Slot) :
    trimChars slot.chars = (slot.element?.map String.toList).getD [] := by
  cases slot with
  | blank blanks h => exact trimChars_blanks h
  | element before e after hbefore he hafter => exact trimChars_around he.bare hbefore hafter

/-- Characters without a comma are those of a slot. -/
theorem exists_chars_eq {piece : List Char} (h : ',' ∉ piece) : ∃ slot : Slot, slot.chars = piece := by
  by_cases empty : trimChars piece = []
  · obtain ⟨before, after, hbefore, hafter, heq⟩ := exists_trimChars_eq piece
    rw [empty, List.nil_append] at heq
    refine ⟨.blank piece fun c hc => ?_, rfl⟩
    rw [heq, List.mem_append] at hc
    exact hc.elim (hbefore c) (hafter c)
  · obtain ⟨before, after, hbefore, hafter, heq⟩ := exists_trimChars_eq piece
    have chars : (String.ofList (trimChars piece)).toList = trimChars piece := String.toList_ofList
    have he : IsElement (String.ofList (trimChars piece)) := by
      refine ⟨fun hnil => empty ?_, fun hmem => h ?_, ?_⟩
      · rw [← chars, hnil]
        rfl
      · rw [chars] at hmem
        rw [heq]
        exact List.mem_append_right _ (List.mem_append_left _ hmem)
      · rw [chars]
        exact bare_trimChars piece
    refine ⟨.element before _ after hbefore he hafter, ?_⟩
    rw [Slot.chars, chars, ← heq]

end Slot

/-! ## Splitting -/

open Slot (written elements)

/-- Characters that are split into those of slots give the elements in the slots. -/
theorem elements_of_pieces (slots : List Slot) :
    (((slots.map Slot.chars).map trimChars).filter fun part => !part.isEmpty).map String.ofList =
      elements slots := by
  induction slots with
  | nil => rfl
  | cons slot slots ih =>
    rw [List.map_cons, List.map_cons, Slot.trimChars_chars, elements]
    cases slot with
    | blank blanks h => exact ih
    | element before e after hbefore he hafter =>
      have present : (!e.toList.isEmpty) = true := by
        have nonempty : e.toList ≠ [] := fun hnil => he.ne_empty (String.toList_eq_nil_iff.mp hnil)
        rw [List.isEmpty_eq_false_iff.mpr nonempty, Bool.not_false]
      have element : (Slot.element before e after hbefore he hafter).element? = some e := rfl
      rw [element, Option.map_some, Option.getD_some, List.filterMap_cons_some element, ← elements,
        ← ih, List.filter_cons, if_pos present, List.map_cons, String.ofList_toList]

/-- **Slots are read as the elements in them.** -/
theorem commaList_written (slots : List Slot) : commaList (written slots) = elements slots := by
  cases slots with
  | nil => rfl
  | cons slot slots =>
    have apart : ∀ piece ∈ (slot :: slots).map Slot.chars, ',' ∉ piece := by
      intro piece hpiece
      obtain ⟨slot, -, rfl⟩ := List.mem_map.mp hpiece
      exact slot.no_comma
    rw [commaList, Slot.toList_written, List.splitOn_intercalate ',' apart (List.cons_ne_nil _ _),
      elements_of_pieces]

/-- **Every text is written as slots.**  Its first slot ends at the first comma. -/
theorem exists_written_eq (s : String) : ∃ slots, written slots = s := by
  have chars (n : Nat) : ∀ cs : List Char, cs.length = n →
      ∃ slot slots, [','].intercalate ((slot :: slots).map Slot.chars) = cs := by
    induction n using Nat.strong_induction_on with
    | _ n ih =>
      intro cs hlength
      by_cases comma : ',' ∈ cs
      · obtain ⟨piece, rest, rfl, hpiece⟩ := List.eq_append_cons_of_mem comma
        obtain ⟨slot, rfl⟩ := Slot.exists_chars_eq hpiece
        rw [List.length_append, List.length_cons] at hlength
        obtain ⟨next, slots, rfl⟩ := ih rest.length (by omega) rest rfl
        refine ⟨slot, next :: slots, ?_⟩
        rw [List.map_cons, List.map_cons, List.intercalate_cons_cons, List.append_assoc]
        rfl
      · obtain ⟨slot, rfl⟩ := Slot.exists_chars_eq comma
        exact ⟨slot, [], List.intercalate_singleton⟩
  obtain ⟨slot, slots, h⟩ := chars _ s.toList rfl
  refine ⟨slot :: slots, String.toList_inj.mp ?_⟩
  rw [Slot.toList_written, h]

/-- A blank behind each comma is a blank before each element but the first. -/
theorem intercalate_spaced (e : List Char) (es : List (List Char)) :
    [',', ' '].intercalate (e :: es) = [','].intercalate (e :: es.map (' ' :: ·)) := by
  induction es generalizing e with
  | nil => rw [List.map_nil, List.intercalate_singleton, List.intercalate_singleton]
  | cons d es ih =>
    rw [List.map_cons, List.intercalate_cons_cons, List.intercalate_cons_cons, ih]
    cases es with
    | nil => simp
    | cons d' es => simp

/-- Every list of elements can be written with one blank behind each comma. -/
theorem exists_written_spaced {es : List String} (h : ∀ e ∈ es, IsElement e) :
    ∃ slots, written slots = ", ".intercalate es ∧ elements slots = es := by
  have blank : AllBlank [' '] := List.forall_mem_singleton.mpr (by decide)
  have nothing : AllBlank [] := fun c hc => absurd hc List.not_mem_nil
  have behind (es : List String) (h : ∀ e ∈ es, IsElement e) : ∃ slots : List Slot,
      slots.map Slot.chars = (es.map String.toList).map (' ' :: ·) ∧ elements slots = es := by
    induction es with
    | nil => exact ⟨[], rfl, rfl⟩
    | cons e es ih =>
      obtain ⟨he, hes⟩ := List.forall_mem_cons.mp h
      obtain ⟨slots, hchars, helements⟩ := ih hes
      refine ⟨.element [' '] e [] blank he nothing :: slots, ?_, congrArg (e :: ·) helements⟩
      rw [List.map_cons, hchars, Slot.chars, List.append_nil]
      rfl
  cases es with
  | nil => exact ⟨[], rfl, rfl⟩
  | cons e es =>
    obtain ⟨he, hes⟩ := List.forall_mem_cons.mp h
    obtain ⟨slots, hchars, helements⟩ := behind es hes
    refine ⟨.element [] e [] nothing he nothing :: slots, ?_, congrArg (e :: ·) helements⟩
    have separator : ", ".toList = [',', ' '] := rfl
    rw [← String.toList_inj, Slot.toList_written, String.toList_intercalate, separator,
      List.map_cons, List.map_cons, intercalate_spaced, hchars, Slot.chars, List.nil_append,
      List.append_nil]

/-- **Splitting a text is undoing how a list is written.**  What a text is split into are elements;
written with `", "` between them they are split into the same list again; and a text is split into a
list exactly if it is a way to write it, with any blanks around the elements and between the
commas. -/
theorem commaList_eq_iff (s : String) :
    (∀ e ∈ commaList s, IsElement e) ∧
      commaList (", ".intercalate (commaList s)) = commaList s ∧
        ∀ es, commaList s = es ↔ ∃ slots, written slots = s ∧ elements slots = es := by
  obtain ⟨slots, rfl⟩ := exists_written_eq s
  rw [commaList_written]
  have isElement : ∀ e ∈ elements slots, IsElement e := by
    intro e he
    obtain ⟨slot, -, hslot⟩ := List.mem_filterMap.mp he
    cases slot with
    | blank blanks h => cases hslot
    | element before e after hbefore he hafter =>
      cases hslot
      exact he
  refine ⟨isElement, ?_, fun es => ⟨fun h => ⟨slots, rfl, h⟩, ?_⟩⟩
  · obtain ⟨spaced, hwritten, helements⟩ := exists_written_spaced isElement
    rw [← hwritten, commaList_written, helements]
  · rintro ⟨others, hwritten, rfl⟩
    rw [← commaList_written, ← commaList_written, hwritten]

example : commaList " city ,, first name,\u3000" = ["city", "first name"] := by decide

end FilterStore.Text
