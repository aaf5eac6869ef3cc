import FilterStore.Dump.Replay
import FilterStore.Proofs.Text.Trim

/-!
# Statements that do not mind

A statement of a dump is changed behind its head and nowhere else.  The *head* is `CREATE`, possibly
a modifier, and the kind of an object, each with blanks behind it.  The *phrase* is `IF NOT EXISTS`,
again with blanks behind each word.  Letters count in any case.

Reading looks for one word after the other.  The letters of a word are no blanks and blanks follow
it, so the word and what comes next are determined by the text alone, and no two words fit in the
same place (`afterWord?_unique`).  That is why trying the modifiers and the kinds one after the
other finds a head whenever there is one (`afterHead?_eq_some_iff`), and why the same head is found
again behind the rewriting.

What is left behind the head, or behind the phrase, does not start with a blank, so a statement that
has been changed is not changed again (`tolerant_inserts_phrase`).
-/

namespace FilterStore.Replay

open Text (AllBlank isBlank)

/-! ## Letters -/

/-- The capital of a letter.  The long s is an s. -/
def capital (c : Char) : Char := if c = 'ſ' then 'S' else c.toUpper

theorem isLetter_iff {letter c : Char} (h : letter.isUpper = true) :
    isLetter letter c = true ↔ capital c = letter := by
  by_cases long : c = 'ſ'
  · subst long
    have apart : ('ſ'.toUpper == letter) = false := by
      rw [beq_eq_false_iff_ne]
      rintro rfl
      exact absurd h (by decide)
    rw [isLetter, apart, Bool.false_or, capital, if_pos rfl, beq_self_eq_true, Bool.and_true,
      beq_iff_eq, eq_comm]
  · simp [isLetter, capital, long]

/-- What has a capital from `A` to `Z` is no blank. -/
theorem not_isBlank_of_capital {c : Char} (h : (capital c).isUpper = true) : isBlank c = false := by
  by_cases long : c = 'ſ'
  · subst long
    decide
  · have letter : (97 ≤ c.toNat ∧ c.toNat ≤ 122) ∨ (65 ≤ c.toNat ∧ c.toNat ≤ 90) := by
      rw [capital, if_neg long] at h
      by_cases small : 97 ≤ c.toNat ∧ c.toNat ≤ 122
      · exact .inl small
      · have stays : c.toUpper = c := dif_neg small
        rw [stays] at h
        exact .inr (of_decide_eq_true h)
    rw [← Bool.not_eq_true]
    simp only [isBlank, Bool.or_eq_true, Bool.and_eq_true, decide_eq_true_eq, beq_iff_eq]
    omega

/-! ## Words and blanks -/

/-- A word in capitals. -/
structure Plain (word : String) : Prop where
  ne_empty : word ≠ ""
  isUpper : ∀ letter ∈ word.toList, letter.isUpper = true

/-- A text that is a word, whatever the case of its letters. -/
def Spelled (word : String) (cs : List Char) : Prop := cs.map capital = word.toList

/-- One blank or more. -/
structure Gap (cs : List Char) : Prop where
  ne_nil : cs ≠ []
  blank : AllBlank cs

/-- A text that does not start with a blank. -/
def Solid (cs : List Char) : Prop := ∀ c ∈ cs.head?, isBlank c = false

theorem Spelled.not_isBlank {word : String} {cs : List Char} (plain : Plain word)
    (h : Spelled word cs) {c : Char} (hc : c ∈ cs) : isBlank c = false :=
  not_isBlank_of_capital (plain.isUpper _ (h ▸ List.mem_map_of_mem hc))

theorem dropWhile_of_solid {cs : List Char} (h : Solid cs) : cs.dropWhile isBlank = cs := by
  cases cs with
  | nil => rfl
  | cons c cs => exact List.dropWhile_cons_of_neg (Bool.eq_false_iff.mp (h c rfl))

theorem solid_dropWhile (cs : List Char) : Solid (cs.dropWhile isBlank) := by
  intro c hc
  induction cs with
  | nil => cases hc
  | cons d cs ih =>
    rw [List.dropWhile_cons] at hc
    split at hc
    · exact ih hc
    · rename_i solid
      cases hc
      exact Bool.eq_false_iff.mpr solid

theorem afterLetters?_eq_some_iff {letters cs rest : List Char}
    (plain : ∀ letter ∈ letters, letter.isUpper = true) :
    afterLetters? letters cs = some rest ↔
      ∃ spelled, cs = spelled ++ rest ∧ spelled.map capital = letters := by
  induction letters generalizing cs with
  | nil => simp [afterLetters?]
  | cons letter letters ih =>
    obtain ⟨first, others⟩ := List.forall_mem_cons.mp plain
    cases cs with
    | nil => simp [afterLetters?]
    | cons c cs =>
      rw [afterLetters?]
      constructor
      · intro read
        split at read
        · rename_i fits
          obtain ⟨spelled, rfl, same⟩ := (ih others).mp read
          refine ⟨c :: spelled, rfl, ?_⟩
          rw [List.map_cons, same, (isLetter_iff first).mp fits]
        · cases read
      · rintro ⟨spelled, split, same⟩
        obtain ⟨d, spelled', rfl, fits, same'⟩ := List.map_eq_cons_iff.mp same
        rw [List.cons_append] at split
        cases split
        rw [if_pos ((isLetter_iff first).mpr fits)]
        exact (ih others).mpr ⟨spelled', rfl, same'⟩

theorem afterBlanks?_eq_some_iff {cs rest : List Char} :
    afterBlanks? cs = some rest ↔ ∃ gap, cs = gap ++ rest ∧ Gap gap ∧ Solid rest := by
  cases cs with
  | nil =>
    simp only [afterBlanks?, reduceCtorEq, false_iff]
    rintro ⟨gap, split, filled, -⟩
    exact filled.ne_nil (List.append_eq_nil_iff.mp split.symm).1
  | cons c cs =>
    rw [afterBlanks?]
    constructor
    · intro read
      split at read
      · rename_i blank
        cases read
        refine ⟨c :: cs.takeWhile isBlank, ?_, ⟨List.cons_ne_nil _ _, ?_⟩, solid_dropWhile cs⟩
        · rw [List.cons_append, List.takeWhile_append_dropWhile]
        · exact List.forall_mem_cons.mpr ⟨blank, fun d hd =>
            List.all_eq_true.mp List.all_takeWhile d hd⟩
      · cases read
    · rintro ⟨gap, split, filled, solid⟩
      obtain ⟨d, gap, rfl⟩ := List.exists_cons_of_ne_nil filled.ne_nil
      obtain ⟨blank, others⟩ := List.forall_mem_cons.mp filled.blank
      rw [List.cons_append] at split
      cases split
      rw [if_pos blank, List.dropWhile_append_of_pos others, dropWhile_of_solid solid]

theorem afterWord?_eq_some_iff {word : String} {cs rest : List Char} (plain : Plain word) :
    afterWord? word cs = some rest ↔
      ∃ spelled gap, cs = spelled ++ (gap ++ rest) ∧ Spelled word spelled ∧ Gap gap ∧
        Solid rest := by
  rw [afterWord?, Option.bind_eq_some_iff]
  constructor
  · rintro ⟨behind, letters, blanks⟩
    obtain ⟨spelled, rfl, same⟩ := (afterLetters?_eq_some_iff plain.isUpper).mp letters
    obtain ⟨gap, rfl, filled, solid⟩ := afterBlanks?_eq_some_iff.mp blanks
    exact ⟨spelled, gap, rfl, same, filled, solid⟩
  · rintro ⟨spelled, gap, rfl, same, filled, solid⟩
    exact ⟨gap ++ rest, (afterLetters?_eq_some_iff plain.isUpper).mpr ⟨spelled, rfl, same⟩,
      afterBlanks?_eq_some_iff.mpr ⟨gap, rfl, filled, solid⟩⟩

/-- **No two words fit in the same place.**  A word ends at the first blank. -/
theorem afterWord?_unique {word word' : String} {cs rest rest' : List Char} (plain : Plain word)
    (plain' : Plain word') (h : afterWord? word cs = some rest)
    (h' : afterWord? word' cs = some rest') : word = word' ∧ rest = rest' := by
  have cut : ∀ {word : String} {rest : List Char}, Plain word → afterWord? word cs = some rest →
      Spelled word (cs.takeWhile fun c => !isBlank c) ∧
        rest = (cs.dropWhile fun c => !isBlank c).dropWhile isBlank := by
    intro word rest plain h
    obtain ⟨spelled, gap, rfl, same, filled, solid⟩ := (afterWord?_eq_some_iff plain).mp h
    have inside : ∀ c ∈ spelled, (!isBlank c) = true := fun c hc => by
      rw [same.not_isBlank plain hc]
      rfl
    obtain ⟨b, gap, rfl⟩ := List.exists_cons_of_ne_nil filled.ne_nil
    obtain ⟨blank, others⟩ := List.forall_mem_cons.mp filled.blank
    have word' : (b :: (gap ++ rest)).takeWhile (fun c => !isBlank c) = [] := by simp [blank]
    have behind : (b :: (gap ++ rest)).dropWhile (fun c => !isBlank c) = b :: (gap ++ rest) := by
      simp [blank]
    rw [List.takeWhile_append_of_pos inside, List.dropWhile_append_of_pos inside, List.cons_append,
      word', behind, List.append_nil, List.dropWhile_cons_of_pos blank,
      List.dropWhile_append_of_pos others, dropWhile_of_solid solid]
    exact ⟨same, rfl⟩
  obtain ⟨same, next⟩ := cut plain h
  obtain ⟨same', next'⟩ := cut plain' h'
  exact ⟨String.toList_inj.mp (same.symm.trans same'), next.trans next'.symm⟩

theorem afterOne?_eq_some_iff {words : List String} {cs rest : List Char}
    (plain : ∀ word ∈ words, Plain word) :
    afterOne? words cs = some rest ↔ ∃ word ∈ words, afterWord? word cs = some rest := by
  constructor
  · exact List.exists_of_findSome?_eq_some
  · rintro ⟨word, known, read⟩
    have found : (afterOne? words cs).isSome := by
      rw [afterOne?, List.findSome?_isSome_iff]
      exact ⟨word, known, read ▸ rfl⟩
    obtain ⟨rest', found⟩ := Option.isSome_iff_exists.mp found
    obtain ⟨word', known', read'⟩ := List.exists_of_findSome?_eq_some found
    obtain ⟨-, rfl⟩ := afterWord?_unique (plain word known) (plain word' known') read read'
    exact found

/-! ## Words in a row -/

/-- Words in a row, each with blanks behind it. -/
def Words : List String → List Char → Prop
  | [], cs => cs = []
  | word :: words, cs => ∃ spelled gap rest,
      cs = spelled ++ (gap ++ rest) ∧ Spelled word spelled ∧ Gap gap ∧ Words words rest

/-- What follows words in a row. -/
def afterWords? (words : List String) (cs : List Char) : Option (List Char) :=
  words.foldlM (fun cs word => afterWord? word cs) cs

theorem afterWords?_cons (word : String) (words : List String) (cs : List Char) :
    afterWords? (word :: words) cs = (afterWord? word cs).bind (afterWords? words) := rfl

theorem afterWords?_singleton (word : String) (cs : List Char) :
    afterWords? [word] cs = afterWord? word cs := by
  rw [afterWords?_cons]
  cases afterWord? word cs <;> rfl

theorem solid_of_words {words : List String} (plain : ∀ word ∈ words, Plain word)
    {cs rest : List Char} (h : Words words cs) (solid : Solid rest) : Solid (cs ++ rest) := by
  cases words with
  | nil =>
    cases h
    exact solid
  | cons word words =>
    obtain ⟨spelled, gap, behind, rfl, same, -⟩ := h
    cases spelled with
    | nil =>
      exact absurd (String.toList_inj.mp (same.symm.trans String.toList_empty.symm))
        (plain word List.mem_cons_self).ne_empty
    | cons c spelled =>
      intro d hd
      cases hd
      exact same.not_isBlank (plain word List.mem_cons_self) List.mem_cons_self

theorem afterWords?_eq_some_iff {words : List String} (plain : ∀ word ∈ words, Plain word)
    {cs rest : List Char} :
    afterWords? words cs = some rest ↔
      ∃ spelled, cs = spelled ++ rest ∧ Words words spelled ∧ (words ≠ [] → Solid rest) := by
  induction words generalizing cs with
  | nil =>
    constructor
    · intro read
      cases read
      exact ⟨[], rfl, rfl, fun none => absurd rfl none⟩
    · rintro ⟨_, rfl, rfl, -⟩
      rfl
  | cons word words ih =>
    obtain ⟨first, others⟩ := List.forall_mem_cons.mp plain
    rw [afterWords?_cons, Option.bind_eq_some_iff]
    constructor
    · rintro ⟨behind, read, next⟩
      obtain ⟨spelled, gap, rfl, same, blanks, solid⟩ := (afterWord?_eq_some_iff first).mp read
      obtain ⟨row, rfl, inner, solid'⟩ := (ih others).mp next
      refine ⟨spelled ++ (gap ++ row), by simp, ⟨spelled, gap, row, rfl, same, blanks, inner⟩,
        fun _ => ?_⟩
      rcases words with _ | ⟨word', words⟩
      · cases inner
        exact solid
      · exact solid' (List.cons_ne_nil _ _)
    · rintro ⟨_, rfl, ⟨spelled, gap, row, rfl, same, blanks, inner⟩, solid⟩
      have solid' := solid (List.cons_ne_nil _ _)
      refine ⟨row ++ rest, (afterWord?_eq_some_iff first).mpr
        ⟨spelled, gap, by simp, same, blanks, solid_of_words others inner solid'⟩,
        (ih others).mpr ⟨row, rfl, inner, fun _ => solid'⟩⟩

/-- Blanks that follow words in a row belong to the last of them. -/
theorem Words.append {words : List String} (nonempty : words ≠ []) {cs blanks : List Char}
    (h : Words words cs) (blank : AllBlank blanks) : Words words (cs ++ blanks) := by
  induction words generalizing cs with
  | nil => exact absurd rfl nonempty
  | cons word words ih =>
    obtain ⟨spelled, gap, row, rfl, same, filled, inner⟩ := h
    rcases words with _ | ⟨next, words⟩
    · cases inner
      refine ⟨spelled, gap ++ blanks, [], by simp, same, ⟨?_, ?_⟩, rfl⟩
      · exact List.append_ne_nil_of_left_ne_nil filled.ne_nil _
      · exact List.forall_mem_append.mpr ⟨filled.blank, blank⟩
    · exact ⟨spelled, gap, row ++ blanks, by simp, same, filled, ih (List.cons_ne_nil _ _) inner⟩

theorem exists_blanks_solid (cs : List Char) :
    ∃ blanks rest, cs = blanks ++ rest ∧ AllBlank blanks ∧ Solid rest :=
  ⟨_, _, (List.takeWhile_append_dropWhile ..).symm,
    fun c hc => List.all_eq_true.mp List.all_takeWhile c hc, solid_dropWhile cs⟩

/-! ## The head and the phrase -/

/-- The words of a head. -/
def HeadWords (words : List String) : Prop := ∃ kind ∈ kinds,
  words = ["CREATE", kind] ∨ ∃ modifier ∈ modifiers, words = ["CREATE", modifier, kind]

/-- The head of a statement that creates an object, with the blanks around it. -/
def Head (cs : List Char) : Prop := ∃ blanks row words,
  cs = blanks ++ row ∧ AllBlank blanks ∧ HeadWords words ∧ Words words row

/-- The words of the phrase that asks not to mind. -/
def phraseWords : List String := ["IF", "NOT", "EXISTS"]

theorem plain_modifier {word : String} (h : word ∈ modifiers) : Plain word := by
  simp only [modifiers, List.mem_cons, List.not_mem_nil, or_false] at h
  rcases h with rfl | rfl | rfl <;> exact ⟨by decide, List.all_eq_true.mp (by decide)⟩

theorem plain_kind {word : String} (h : word ∈ kinds) : Plain word := by
  simp only [kinds, List.mem_cons, List.not_mem_nil, or_false] at h
  rcases h with rfl | rfl | rfl | rfl <;> exact ⟨by decide, List.all_eq_true.mp (by decide)⟩

theorem not_kind_of_modifier {word : String} (h : word ∈ modifiers) : word ∉ kinds := by
  simp only [modifiers, List.mem_cons, List.not_mem_nil, or_false] at h
  rcases h with rfl | rfl | rfl <;> decide

theorem plain_phraseWord {word : String} (h : word ∈ phraseWords) : Plain word := by
  simp only [phraseWords, List.mem_cons, List.not_mem_nil, or_false] at h
  rcases h with rfl | rfl | rfl <;> exact ⟨by decide, List.all_eq_true.mp (by decide)⟩

theorem HeadWords.plain {words : List String} (h : HeadWords words) :
    ∀ word ∈ words, Plain word := by
  have create : Plain "CREATE" := ⟨by decide, List.all_eq_true.mp (by decide)⟩
  obtain ⟨kind, known, rfl | ⟨modifier, known', rfl⟩⟩ := h
  · simpa using ⟨create, plain_kind known⟩
  · simpa using ⟨create, plain_modifier known', plain_kind known⟩

theorem HeadWords.ne_nil {words : List String} (h : HeadWords words) : words ≠ [] := by
  obtain ⟨kind, -, rfl | ⟨modifier, -, rfl⟩⟩ := h <;> exact List.cons_ne_nil _ _

/-- Trying one word after the other finds the words of a head if they are there: a modifier and a
kind do not fit in the same place. -/
theorem afterHead?_eq_some_iff_words {cs rest : List Char} :
    afterHead? cs = some rest ↔
      ∃ words, HeadWords words ∧ afterWords? words (cs.dropWhile isBlank) = some rest := by
  have unfolded : afterHead? cs = (afterWord? "CREATE" (cs.dropWhile isBlank)).bind fun behind =>
      afterOne? kinds ((afterOne? modifiers behind).getD behind) := rfl
  have modified : ∀ {behind next}, afterOne? modifiers behind = some next ↔
      ∃ word ∈ modifiers, afterWord? word behind = some next :=
    afterOne?_eq_some_iff fun _ => plain_modifier
  have ofKind : ∀ {behind next}, afterOne? kinds behind = some next ↔
      ∃ word ∈ kinds, afterWord? word behind = some next :=
    afterOne?_eq_some_iff fun _ => plain_kind
  rw [unfolded, Option.bind_eq_some_iff]
  constructor
  · rintro ⟨behind, create, read⟩
    obtain ⟨kind, known, read⟩ := ofKind.mp read
    cases found : afterOne? modifiers behind with
    | none =>
      rw [found, Option.getD_none] at read
      refine ⟨["CREATE", kind], ⟨kind, known, .inl rfl⟩, ?_⟩
      rw [afterWords?_cons, create, Option.bind_some, afterWords?_singleton, read]
    | some next =>
      rw [found, Option.getD_some] at read
      obtain ⟨modifier, known', read'⟩ := modified.mp found
      refine ⟨["CREATE", modifier, kind], ⟨kind, known, .inr ⟨modifier, known', rfl⟩⟩, ?_⟩
      rw [afterWords?_cons, create, Option.bind_some, afterWords?_cons, read', Option.bind_some,
        afterWords?_singleton, read]
  · rintro ⟨words, ⟨kind, known, rfl | ⟨modifier, known', rfl⟩⟩, read⟩
    · rw [afterWords?_cons, Option.bind_eq_some_iff] at read
      obtain ⟨behind, create, read⟩ := read
      rw [afterWords?_singleton] at read
      have unmodified : afterOne? modifiers behind = none := by
        rw [Option.eq_none_iff_forall_ne_some]
        intro next found
        obtain ⟨modifier, known', read'⟩ := modified.mp found
        obtain ⟨rfl, -⟩ := afterWord?_unique (plain_modifier known') (plain_kind known) read' read
        exact not_kind_of_modifier known' known
      refine ⟨behind, create, ?_⟩
      rw [unmodified, Option.getD_none]
      exact ofKind.mpr ⟨kind, known, read⟩
    · rw [afterWords?_cons, Option.bind_eq_some_iff] at read
      obtain ⟨behind, create, read⟩ := read
      rw [afterWords?_cons, Option.bind_eq_some_iff] at read
      obtain ⟨next, read', read⟩ := read
      rw [afterWords?_singleton] at read
      refine ⟨behind, create, ?_⟩
      rw [modified.mpr ⟨modifier, known', read'⟩, Option.getD_some]
      exact ofKind.mpr ⟨kind, known, read⟩

/-- **What follows the head is found exactly if there is a head.** -/
theorem afterHead?_eq_some_iff {cs rest : List Char} :
    afterHead? cs = some rest ↔ ∃ head, cs = head ++ rest ∧ Head head ∧ Solid rest := by
  rw [afterHead?_eq_some_iff_words]
  constructor
  · rintro ⟨words, shape, read⟩
    obtain ⟨row, split, inner, solid⟩ := (afterWords?_eq_some_iff shape.plain).mp read
    refine ⟨cs.takeWhile isBlank ++ row, ?_, ⟨_, row, words, rfl, fun c hc =>
      List.all_eq_true.mp List.all_takeWhile c hc, shape, inner⟩, solid shape.ne_nil⟩
    rw [List.append_assoc, ← split, List.takeWhile_append_dropWhile]
  · rintro ⟨_, rfl, ⟨blanks, row, words, rfl, blank, shape, inner⟩, solid⟩
    refine ⟨words, shape, ?_⟩
    have start : Solid (row ++ rest) := solid_of_words shape.plain inner solid
    rw [List.append_assoc, List.dropWhile_append_of_pos blank, dropWhile_of_solid start]
    exact (afterWords?_eq_some_iff shape.plain).mpr ⟨row, rfl, inner, fun _ => solid⟩

/-- What follows the phrase is found exactly if it is there. -/
theorem afterPhrase?_eq_some_iff {cs rest : List Char} :
    afterPhrase? cs = some rest ↔
      ∃ asked, cs = asked ++ rest ∧ Words phraseWords asked ∧ Solid rest := by
  have unfolded : afterPhrase? cs = afterWords? phraseWords cs := by
    have last : afterWords? ["EXISTS"] = afterWord? "EXISTS" :=
      funext (afterWords?_singleton "EXISTS")
    have behind : afterWords? ["NOT", "EXISTS"] = fun cs =>
        (afterWord? "NOT" cs).bind (afterWord? "EXISTS") :=
      funext fun cs => by rw [afterWords?_cons, last]
    rw [phraseWords, afterWords?_cons, behind]
    rfl
  rw [unfolded, afterWords?_eq_some_iff fun _ => plain_phraseWord]
  have words : phraseWords ≠ [] := List.cons_ne_nil _ _
  simp only [words, ne_eq, not_false_eq_true, forall_const]

theorem words_phrase : Words phraseWords phrase := by
  have gap : Gap [' '] := ⟨List.cons_ne_nil _ _, List.forall_mem_singleton.mpr rfl⟩
  exact ⟨['I', 'F'], [' '], _, rfl, rfl, gap, ['N', 'O', 'T'], [' '], _, rfl, rfl, gap,
    "EXISTS".toList, [' '], [], rfl, rfl, gap, rfl⟩

theorem solid_phrase (rest : List Char) : Solid (phrase ++ rest) := fun c hc => by
  cases hc
  decide

/-! ## The rewriting -/

/-- A text that starts with a head. -/
def HasHead (cs : List Char) : Prop := ∃ head rest, cs = head ++ rest ∧ Head head

/-- A text that starts with the phrase. -/
def HasPhrase (cs : List Char) : Prop := ∃ asked rest, cs = asked ++ rest ∧ Words phraseWords asked

theorem afterHead?_eq_none_iff {cs : List Char} : afterHead? cs = none ↔ ¬ HasHead cs := by
  rw [Option.eq_none_iff_forall_ne_some]
  constructor
  · rintro none ⟨head, behind, rfl, blanks, row, words, rfl, blank, shape, inner⟩
    obtain ⟨more, rest, rfl, blank', solid⟩ := exists_blanks_solid behind
    refine none rest (afterHead?_eq_some_iff.mpr ⟨blanks ++ (row ++ more), by simp,
      ⟨blanks, row ++ more, words, rfl, blank, shape, inner.append shape.ne_nil blank'⟩, solid⟩)
  · rintro none rest read
    obtain ⟨head, split, h, -⟩ := afterHead?_eq_some_iff.mp read
    exact none ⟨head, rest, split, h⟩

theorem afterPhrase?_eq_none_iff {cs : List Char} : afterPhrase? cs = none ↔ ¬ HasPhrase cs := by
  rw [Option.eq_none_iff_forall_ne_some]
  constructor
  · rintro none ⟨asked, behind, rfl, inner⟩
    obtain ⟨more, rest, rfl, blank, solid⟩ := exists_blanks_solid behind
    exact none rest (afterPhrase?_eq_some_iff.mpr ⟨asked ++ more, by simp,
      inner.append (List.cons_ne_nil _ _) blank, solid⟩)
  · rintro none rest read
    obtain ⟨asked, split, inner, -⟩ := afterPhrase?_eq_some_iff.mp read
    exact none ⟨asked, rest, split, inner⟩

/-- The characters of a statement that has a head. -/
theorem tolerantChars_append {head rest : List Char} (h : Head head) (solid : Solid rest) :
    tolerantChars (head ++ rest) = head ++ phrase ++ (afterPhrase? rest).getD rest := by
  have read := afterHead?_eq_some_iff.mpr ⟨head, rfl, h, solid⟩
  rw [tolerantChars, read]
  simp

/-- Where the phrase is there, it is put into its own place. -/
theorem tolerantChars_phrased {head rest : List Char} (h : Head head) (solid : Solid rest) :
    tolerantChars (head ++ phrase ++ rest) = head ++ phrase ++ rest := by
  have asked := afterPhrase?_eq_some_iff.mpr ⟨phrase, rfl, words_phrase, solid⟩
  rw [List.append_assoc, tolerantChars_append h (solid_phrase rest), asked, Option.getD_some,
    List.append_assoc]

/-- **A statement without a head stays as it is.  In one with a head the phrase is put behind the
head, where it takes the place of the phrase that may be there, and nothing else changes.  What has
been changed is not changed again.** -/
theorem tolerant_inserts_phrase (sql : String) :
    (¬ HasHead sql.toList ∧ tolerant sql = sql ∨
      ∃ head rest : String, Head head.toList ∧ Solid rest.toList ∧
        tolerant sql = head ++ "IF NOT EXISTS " ++ rest ∧
          (sql = head ++ rest ∧ ¬ HasPhrase rest.toList ∨
            ∃ asked : String, Words ["IF", "NOT", "EXISTS"] asked.toList ∧
              sql = head ++ asked ++ rest)) ∧
      tolerant (tolerant sql) = tolerant sql := by
  have phrased : ∀ head rest : List Char, String.ofList (head ++ phrase ++ rest) =
      String.ofList head ++ "IF NOT EXISTS " ++ String.ofList rest := fun head rest => by
    have text : String.ofList phrase = "IF NOT EXISTS " := String.ofList_toList
    rw [String.ofList_append, String.ofList_append, text]
  cases read : afterHead? sql.toList with
  | none =>
    have same : tolerant sql = sql := by rw [tolerant, tolerantChars, read, String.ofList_toList]
    rw [same, same]
    exact ⟨.inl ⟨afterHead?_eq_none_iff.mp read, rfl⟩, rfl⟩
  | some behind =>
    obtain ⟨head, split, h, solid⟩ := afterHead?_eq_some_iff.mp read
    have changed := tolerantChars_append h solid
    rw [← split] at changed
    cases asks : afterPhrase? behind with
    | none =>
      rw [asks, Option.getD_none] at changed
      have again : tolerant (tolerant sql) = tolerant sql := by
        rw [tolerant, tolerant, changed, String.toList_ofList, tolerantChars_phrased h solid]
      refine ⟨.inr ⟨String.ofList head, String.ofList behind, ?_, ?_, ?_, .inl ⟨?_, ?_⟩⟩, again⟩
      · rwa [String.toList_ofList]
      · rwa [String.toList_ofList]
      · rw [tolerant, changed, phrased]
      · rw [← String.ofList_append, ← split, String.ofList_toList]
      · rw [String.toList_ofList]
        exact afterPhrase?_eq_none_iff.mp asks
    | some rest =>
      obtain ⟨asked, rfl, spelled, solid'⟩ := afterPhrase?_eq_some_iff.mp asks
      rw [asks, Option.getD_some] at changed
      have again : tolerant (tolerant sql) = tolerant sql := by
        rw [tolerant, tolerant, changed, String.toList_ofList, tolerantChars_phrased h solid']
      refine ⟨.inr ⟨String.ofList head, String.ofList rest, ?_, ?_, ?_,
        .inr ⟨String.ofList asked, ?_, ?_⟩⟩, again⟩
      · rwa [String.toList_ofList]
      · rwa [String.toList_ofList]
      · rw [tolerant, changed, phrased]
      · rwa [String.toList_ofList]
      · rw [← String.ofList_append, ← String.ofList_append, List.append_assoc, ← split,
          String.ofList_toList]

/-- The blanks around the words do not matter, and those of the phrase are lost. -/
example : tolerant "create  temp\tview if  not\nexists v as select 1" =
    "create  temp\tview IF NOT EXISTS v as select 1" := by decide +kernel

end FilterStore.Replay
