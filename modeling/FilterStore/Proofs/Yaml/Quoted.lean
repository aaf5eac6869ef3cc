import FilterStore.Proofs.Yaml.Plain
import Mathlib.Algebra.Group.Nat.Defs
import Mathlib.Data.List.Chain

/-!
# Quoted scalars are read back

Between double quotes every character is itself or an escape, and all of them stand on one line.
Between single quotes a quote is doubled, and the separators of Unicode end lines; the next line is
indented, which the reader passes over.
-/

namespace FilterStore.Yaml

open Number (hexValue?)

/-! ## Escapes -/

theorem hexValue?_upperHex : ∀ d < 16, hexValue? (upperHex d) = some d := by decide

/-- The digits of a code are the code, as far as they go. -/
theorem exists_digits (width n : Nat) :
    ∃ ds, (hexCode width n).mapM hexValue? = some ds ∧
      ds.foldl (fun n d => 16 * n + d) 0 = n % 16 ^ width := by
  induction width generalizing n with
  | zero => exact ⟨[], rfl, by simp [Nat.mod_one]⟩
  | succ width ih =>
    obtain ⟨ds, digits, sum⟩ := ih (n / 16)
    refine ⟨ds ++ [n % 16], ?_, ?_⟩
    · rw [hexCode, List.mapM_append, digits]
      simp [hexValue?_upperHex _ (Nat.mod_lt n (by decide))]
    · rw [List.foldl_append, sum, List.foldl_cons, List.foldl_nil, Nat.pow_succ, Nat.mul_comm (16 ^ width),
        Nat.mod_mul]
      omega

theorem length_hexCode (width n : Nat) : (hexCode width n).length = width := by
  induction width generalizing n with
  | zero => rfl
  | succ width ih => simp [hexCode, ih]

/-- **A character is read off its code.** -/
theorem readCode_hexCode {width : Nat} {c : Char} (fits : c.toNat < 16 ^ width) (rest : List Char) :
    readCode width (hexCode width c.toNat ++ rest) = some c := by
  obtain ⟨ds, digits, sum⟩ := exists_digits width c.toNat
  have length := length_hexCode width c.toNat
  have valid : c.toNat.isValidChar := c.valid
  rw [Nat.mod_eq_of_lt fits] at sum
  simp [readCode, List.take_left' length, length, digits, sum, valid]

/-- The escapes of one letter that are written. -/
def letters : List (Char × Char) :=
  [('\x00', '0'), ('\x07', 'a'), ('\x08', 'b'), ('\t', 't'), ('\n', 'n'), ('\x0b', 'v'),
   ('\x0c', 'f'), ('\r', 'r'), ('\x1b', 'e'), ('"', '"'), ('\\', '\\'), ('\u0085', 'N'),
   ('\u00a0', '_'), ('\u2028', 'L'), ('\u2029', 'P')]

theorem isShown_hexCode (width n : Nat) : ∀ c ∈ hexCode width n, isShown c = true := by
  have digit : ∀ d < 16, isShown (upperHex d) = true := by decide
  induction width generalizing n with
  | zero => nofun
  | succ width ih =>
    intro c hc
    rcases List.mem_append.mp hc with hc | hc
    · exact ih _ c hc
    · rw [List.mem_singleton.mp hc]
      exact digit _ (Nat.mod_lt _ (by decide))

/-- What stands for a character behind a backslash. -/
structure Escapes (c : Char) (e : List Char) : Prop where
  nonempty : e ≠ []
  head : ∀ d ∈ e.head?, isBreak d = false
  shown : ∀ d ∈ e, isShown d = true
  read : ∀ rest line column,
    readEscape ⟨e ++ rest, line, column⟩ = some (c, ⟨rest, line, column + e.length⟩)

theorem escapes_letter {c e : Char} (h : letters.lookup c = some e) : Escapes c [e] := by
  have plain : ∀ x ∈ letters, escape? x.2 = some x.1 ∧ x.2 ≠ 'x' ∧ x.2 ≠ 'u' ∧ x.2 ≠ 'U' ∧
      isBreak x.2 = false ∧ isShown x.2 = true := by decide
  obtain ⟨before, after, same, -⟩ := List.lookup_eq_some_iff.mp h
  obtain ⟨known, x, u, U, solid, shown⟩ := plain (c, e) (by simp [same])
  refine ⟨List.cons_ne_nil _ _, by simpa using solid, by simpa using shown,
    fun rest line column => ?_⟩
  have length : (if e = 'x' then 2 else if e = 'u' then 4 else if e = 'U' then 8 else 0) = 0 := by
    rw [if_neg x, if_neg u, if_neg U]
  simp [readEscape, length, known, Place.skip]

theorem escapes_code {c : Char} {mark : Char} {width : Nat}
    (counts : (if mark = 'x' then 2 else if mark = 'u' then 4 else if mark = 'U' then 8 else 0) = width)
    (plain : isBreak mark = false ∧ isShown mark = true) (positive : 0 < width)
    (fits : c.toNat < 16 ^ width) : Escapes c (mark :: hexCode width c.toNat) := by
  refine ⟨List.cons_ne_nil _ _, by simpa using plain.1,
    List.forall_mem_cons.mpr ⟨plain.2, isShown_hexCode _ _⟩, fun rest line column => ?_⟩
  have length := length_hexCode width c.toNat
  simp [readEscape, counts, positive, readCode_hexCode fits, Place.skip, length, List.drop_left' length]

/-- **A character between double quotes is itself or an escape.** -/
theorem escapeText_cases (c : Char) :
    (escapeText c = [c] ∧ isShown c = true ∧ c ≠ '"' ∧ c ≠ '\\' ∧ isBreak c = false) ∨
      ∃ e, escapeText c = '\\' :: e ∧ Escapes c e := by
  unfold escapeText
  dsimp only
  split
  · rename_i plain
    simp only [Bool.and_eq_true, bne_iff_ne, Bool.not_eq_true'] at plain
    obtain ⟨⟨⟨shown, quote⟩, backslash⟩, solid⟩ := plain
    exact .inl ⟨rfl, shown, quote, backslash, solid⟩
  · refine .inr ?_
    split
    · rename_i e known
      exact ⟨_, rfl, escapes_letter known⟩
    · split
      · exact ⟨_, rfl, escapes_code rfl (by decide) (by decide) (by omega)⟩
      · split
        · exact ⟨_, rfl, escapes_code rfl (by decide) (by decide) (by omega)⟩
        · have small : c.toNat < 16 ^ 8 := Nat.lt_of_lt_of_eq c.val.toNat_lt (by decide)
          exact ⟨_, rfl, escapes_code rfl (by decide) (by decide) small⟩

/-! ## What is read between quotes -/

section Reading

variable {quote : Char} (fuel : Nat) (acc : List Char) {cs : List Char} (line : Nat) {column : Nat}
  (inside : 0 < column)

include inside

theorem readQuotedFrom_char {c : Char} (solid : isGap c = false) (other : c ≠ quote)
    (plain : ¬ (c = '\\' ∧ quote = '"')) :
    readQuotedFrom quote (fuel + 1) acc ⟨c :: cs, line, column⟩ =
      readQuotedFrom quote fuel (c :: acc) ⟨cs, line, column + 1⟩ := by
  have document : Place.atDocument ⟨c :: cs, line, column⟩ = false := atDocument_of_column inside
  have next : Place.next ⟨c :: cs, line, column⟩ = ⟨cs, line, column + 1⟩ := by
    simp [Place.next, (isGap_eq_false.mp solid).2]
  have plain : (c == '\\' && quote == '"') = false := by simpa using plain
  rw [readQuotedFrom]
  simp [document, solid, other, plain, next]

theorem readQuotedFrom_spaces (n : Nat) (solid : Solid cs) :
    readQuotedFrom quote (fuel + 1) acc ⟨spaces (n + 1) ++ cs, line, column⟩ =
      readQuotedFrom quote fuel ((spaces (n + 1)).reverse ++ acc) ⟨cs, line, column + (n + 1)⟩ := by
  have document : Place.atDocument ⟨spaces (n + 1) ++ cs, line, column⟩ = false :=
    atDocument_of_column inside
  have gap := readGap_spaces 0 (n + 1) solid line column
  have written : spaces (n + 1) ++ cs = ' ' :: (spaces n ++ cs) := rfl
  rw [written] at gap document ⊢
  rw [readQuotedFrom]
  simp [document, gap, isGap, isSpace, Gap.text]

/-- Separators of Unicode end their lines, and stay what they are. -/
theorem readQuotedFrom_breaks {b : Char} {bs : List Char} (breaks : ∀ c ∈ b :: bs, isBreak c = true)
    (separators : ∀ c ∈ b :: bs, c ≠ '\n') (n : Nat) (solid : Solid cs) :
    readQuotedFrom quote (fuel + 1) acc ⟨b :: bs ++ (spaces n ++ cs), line, column⟩ =
      readQuotedFrom quote fuel ((b :: bs).reverse ++ acc) ⟨cs, line + (b :: bs).length, n⟩ := by
  have document : Place.atDocument ⟨b :: bs ++ (spaces n ++ cs), line, column⟩ = false :=
    atDocument_of_column inside
  have gap := readGap_breaks 0 (b :: bs) breaks (List.cons_ne_nil _ _) n solid line column
  have text : Gap.text ⟨[], b :: bs⟩ = b :: bs := by
    have other := separators b List.mem_cons_self
    unfold Gap.text
    split <;> simp_all
  have ends : isGap b = true := by
    rw [isGap, breaks b List.mem_cons_self, Bool.or_true]
  rw [List.cons_append] at gap document ⊢
  rw [readQuotedFrom]
  simp only [document, ends, gap, text, Bool.false_eq_true, if_false, if_true, Option.bind_eq_bind,
    Option.bind_some]

/-- An escape. -/
theorem readQuotedFrom_escape {c : Char} {e : List Char} (escapes : Escapes c e) :
    readQuotedFrom '"' (fuel + 1) acc ⟨'\\' :: (e ++ cs), line, column⟩ =
      readQuotedFrom '"' fuel (c :: acc) ⟨cs, line, column + 1 + e.length⟩ := by
  obtain ⟨d, e, rfl⟩ := List.exists_cons_of_ne_nil escapes.nonempty
  have solid : isBreak d = false := escapes.head d rfl
  have read := escapes.read cs line (column + 1)
  rw [List.cons_append] at read ⊢
  have document : Place.atDocument ⟨'\\' :: d :: (e ++ cs), line, column⟩ = false :=
    atDocument_of_column inside
  have next : Place.next ⟨'\\' :: d :: (e ++ cs), line, column⟩ =
      ⟨d :: (e ++ cs), line, column + 1⟩ := rfl
  have backslash : isGap '\\' = false := rfl
  rw [readQuotedFrom]
  simp [document, backslash, next, solid, read]

/-- Two single quotes are one. -/
theorem readQuotedFrom_doubled :
    readQuotedFrom '\x27' (fuel + 1) acc ⟨'\x27' :: '\x27' :: cs, line, column⟩ =
      readQuotedFrom '\x27' fuel ('\x27' :: acc) ⟨cs, line, column + 2⟩ := by
  have document : Place.atDocument ⟨'\x27' :: '\x27' :: cs, line, column⟩ = false :=
    atDocument_of_column inside
  rw [readQuotedFrom]
  simp [document, isGap, isSpace, isBreak, Place.skip]

/-- A quote at the end of the line ends the scalar. -/
theorem readQuotedFrom_end (either : quote = '"' ∨ quote = '\x27') :
    readQuotedFrom quote (fuel + 1) acc ⟨quote :: '\n' :: cs, line, column⟩ =
      some (acc.reverse, ⟨'\n' :: cs, line, column + 1⟩) := by
  have document : Place.atDocument ⟨quote :: '\n' :: cs, line, column⟩ = false :=
    atDocument_of_column inside
  rw [readQuotedFrom]
  rcases either with rfl | rfl <;> simp [document, isGap, isSpace, isBreak, Place.next]

end Reading

/-! ## Double quotes -/

theorem isGap_of_isShown {c : Char} (shown : isShown c = true) (other : c ≠ ' ')
    (solid : isBreak c = false) : isGap c = false := by
  have tab : c ≠ '\t' := by
    rintro rfl
    cases shown
  simp [isGap_eq_false, isSpace, other, tab, solid]

/-- What is written for a character other than a space starts with no gap. -/
theorem solid_escapeText {c : Char} (other : c ≠ ' ') (rest : List Char) :
    Solid (escapeText c ++ rest) := by
  intro d hd
  rcases escapeText_cases c with ⟨written, shown, -, -, solid⟩ | ⟨e, written, -⟩
  · obtain rfl : c = d := by simpa [written] using hd
    exact isGap_of_isShown shown other solid
  · obtain rfl : '\\' = d := by simpa [written] using hd
    rfl

theorem flatMap_escapeText_spaces (n : Nat) : (spaces n).flatMap escapeText = spaces n := by
  induction n with
  | zero => rfl
  | succ n ih => exact congrArg (' ' :: ·) ih

/-- **What is written between double quotes is read back.** -/
theorem readQuotedFrom_doubleQuoted {cs : List Char} {fuel : Nat}
    (enough : (cs.flatMap escapeText).length < fuel) (acc after : List Char)
    (line column : Nat) (inside : 0 < column) :
    ∃ column', readQuotedFrom '"' fuel acc
        ⟨cs.flatMap escapeText ++ '"' :: '\n' :: after, line, column⟩ =
      some (acc.reverse ++ cs, ⟨'\n' :: after, line, column'⟩) := by
  induction fuel generalizing cs acc column with
  | zero => exact absurd enough (Nat.not_lt_zero _)
  | succ fuel ih =>
    cases cs with
    | nil =>
      refine ⟨column + 1, ?_⟩
      rw [List.append_nil]
      exact readQuotedFrom_end fuel acc line inside (.inl rfl)
    | cons c cs =>
      by_cases space : c = ' '
      · -- A run of spaces is read at once.
        subst space
        obtain ⟨n, rest, rfl, other⟩ := exists_spaces cs
        have run : (' ' :: (spaces n ++ rest)).flatMap escapeText =
            spaces (n + 1) ++ rest.flatMap escapeText := by
          rw [← List.cons_append, List.flatMap_append]
          exact congrArg (· ++ _) (flatMap_escapeText_spaces (n + 1))
        have solid : Solid (rest.flatMap escapeText ++ '"' :: '\n' :: after) := by
          cases rest with
          | nil =>
            rintro d ⟨⟩
            rfl
          | cons c rest =>
            rw [List.flatMap_cons, List.append_assoc]
            exact solid_escapeText (other c rfl) _
        rw [run] at enough ⊢
        have shorter : (rest.flatMap escapeText).length < fuel := by
          simp only [spaces, List.length_append, List.length_replicate] at enough
          omega
        obtain ⟨column', read⟩ := ih shorter ((spaces (n + 1)).reverse ++ acc) (column + (n + 1))
          (by omega)
        refine ⟨column', ?_⟩
        rw [List.append_assoc, readQuotedFrom_spaces fuel acc line inside n solid, read]
        simp [spaces, List.replicate_succ]
      · rw [List.flatMap_cons, List.length_append] at enough
        rw [List.flatMap_cons, List.append_assoc]
        rcases escapeText_cases c with ⟨written, shown, quote, backslash, solid⟩ | ⟨e, written, escapes⟩
        · rw [written] at enough ⊢
          obtain ⟨column', read⟩ := ih (Nat.lt_of_succ_lt_succ (by simpa [Nat.add_comm] using enough))
            (c :: acc) (column + 1) (by omega)
          refine ⟨column', ?_⟩
          rw [List.cons_append, List.nil_append, readQuotedFrom_char fuel acc line inside
            (isGap_of_isShown shown space solid) quote (fun h => backslash h.1), read]
          simp
        · rw [written, List.length_cons] at enough
          have shorter : (cs.flatMap escapeText).length < fuel := by omega
          obtain ⟨column', read⟩ := ih shorter (c :: acc) (column + 1 + e.length) (by omega)
          refine ⟨column', ?_⟩
          rw [written, List.cons_append, readQuotedFrom_escape fuel acc line inside escapes, read]
          simp

/-! ## Single quotes -/

/-- Neither does a space stand at a line break nor a line break at a space. -/
def Apart (a b : Char) : Prop := ¬ (isBreak a = true ∧ b = ' ') ∧ ¬ (a = ' ' ∧ isBreak b = true)

theorem isChain_apart {cs : List Char} (before : breakAfterSpace cs = false)
    (after : spaceAfterBreak cs = false) : cs.IsChain Apart := by
  induction cs with
  | nil => exact .nil
  | cons a cs ih =>
    cases cs with
    | nil => exact .singleton a
    | cons b cs =>
      simp only [breakAfterSpace, spaceAfterBreak, Bool.or_eq_false_iff] at before after
      refine .cons_cons ⟨?_, ?_⟩ (ih before.2 after.2)
      · simpa using after.1
      · simpa using before.1

/-- Characters with their quotes doubled. -/
def doubled (cs : List Char) : List Char :=
  cs.flatMap fun c => if c = '\x27' then ['\x27', '\x27'] else [c]

/-- The lines of a scalar between single quotes, with the quote that ends it. -/
def lines (indent : Nat) (cs : List Char) : List Char := indented indent false (doubled cs ++ ['\x27'])

theorem indented_break {c : Char} (ends : isBreak c = true) (indent : Nat) (first : Bool)
    (cs : List Char) : indented indent first (c :: cs) = c :: indented indent true cs := by
  simp [indented, ends]

theorem indented_char {c : Char} (solid : isBreak c = false) (indent : Nat) (cs : List Char) :
    indented indent false (c :: cs) = c :: indented indent false cs := by
  simp [indented, solid]

/-- The first characters of a line are indented, unless the line ends there. -/
theorem indented_true {cs : List Char} (some' : cs ≠ []) (stops : ∀ c ∈ cs.head?, isBreak c = false)
    (indent : Nat) : indented indent true cs = spaces indent ++ indented indent false cs := by
  obtain ⟨c, cs, rfl⟩ := List.exists_cons_of_ne_nil some'
  simp [indented, stops c rfl, spaces]

theorem indented_breaks {bs : List Char} (breaks : ∀ c ∈ bs, isBreak c = true) (some' : bs ≠ [])
    (indent : Nat) (first : Bool) (cs : List Char) :
    indented indent first (bs ++ cs) = bs ++ indented indent true cs := by
  induction bs generalizing first with
  | nil => exact absurd rfl some'
  | cons b bs ih =>
    obtain ⟨ends, others⟩ := List.forall_mem_cons.mp breaks
    rw [List.cons_append, indented_break ends]
    cases bs with
    | nil => rfl
    | cons b bs =>
      rw [ih others (List.cons_ne_nil _ _)]
      rfl

theorem lines_char {c : Char} (solid : isBreak c = false) (other : c ≠ '\x27') (indent : Nat)
    (cs : List Char) : lines indent (c :: cs) = c :: lines indent cs := by
  simp [lines, doubled, other, indented_char solid]

theorem lines_quote (indent : Nat) (cs : List Char) :
    lines indent ('\x27' :: cs) = '\x27' :: '\x27' :: lines indent cs := by
  have solid : isBreak '\x27' = false := rfl
  simp [lines, doubled, indented_char solid]

theorem lines_spaces (n indent : Nat) (cs : List Char) :
    lines indent (spaces n ++ cs) = spaces n ++ lines indent cs := by
  induction n with
  | zero => rfl
  | succ n ih =>
    have written (ds : List Char) : spaces (n + 1) ++ ds = ' ' :: (spaces n ++ ds) := rfl
    rw [written, written, lines_char rfl (by decide), ih]

/-- Behind line breaks the next line is indented. -/
theorem lines_breaks {bs cs : List Char} (breaks : ∀ c ∈ bs, isBreak c = true) (some' : bs ≠ [])
    (stops : ∀ c ∈ cs.head?, isBreak c = false) (indent : Nat) :
    lines indent (bs ++ cs) = bs ++ (spaces indent ++ lines indent cs) := by
  have same : doubled bs = bs := by
    have each : ∀ c ∈ bs, (if c = '\x27' then ['\x27', '\x27'] else [c]) = [c] := by
      intro c hc
      refine if_neg ?_
      rintro rfl
      exact absurd (breaks _ hc) (by decide)
    rw [doubled, List.flatMap_congr each, List.flatMap_singleton']
  have first : ∀ c ∈ (doubled cs ++ ['\x27']).head?, isBreak c = false := by
    intro c hc
    cases cs with
    | nil =>
      obtain rfl : '\x27' = c := by simpa [doubled] using hc
      rfl
    | cons d cs =>
      by_cases quote : d = '\x27'
      · obtain rfl : '\x27' = c := by simpa [doubled, quote] using hc
        rfl
      · obtain rfl : d = c := by simpa [doubled, quote] using hc
        exact stops d rfl
  have whole : doubled (bs ++ cs) = bs ++ doubled cs := by
    rw [doubled, List.flatMap_append, ← doubled, ← doubled, same]
  rw [lines, whole, List.append_assoc, indented_breaks breaks some',
    indented_true (by simp) first, lines]

theorem length_le_indented (indent : Nat) (first : Bool) (cs : List Char) :
    cs.length ≤ (indented indent first cs).length := by
  induction cs generalizing first with
  | nil => exact Nat.zero_le _
  | cons c cs ih =>
    have rest := ih (isBreak c)
    cases ends : isBreak c with
    | true =>
      rw [ends] at rest
      rw [indented_break ends]
      exact Nat.succ_le_succ rest
    | false =>
      rw [ends] at rest
      simp only [indented, ends, Bool.false_eq_true, if_false, List.length_append, List.length_cons]
      omega

theorem length_le_doubled (cs : List Char) : cs.length ≤ (doubled cs).length := by
  induction cs with
  | nil => exact Nat.zero_le _
  | cons c cs ih =>
    have some' : 0 < (if c = '\x27' then ['\x27', '\x27'] else [c]).length := by split <;> simp
    rw [doubled, List.flatMap_cons, List.length_append, ← doubled, List.length_cons]
    omega

/-- What may stand between single quotes: characters that are shown, none of them a line feed, with
spaces apart from line breaks. -/
structure InQuotes (cs : List Char) : Prop where
  shown : ∀ c ∈ cs, isShown c = true
  separators : ∀ c ∈ cs, c ≠ '\n'
  apart : cs.IsChain Apart

theorem InQuotes.of_append {as bs : List Char} (h : InQuotes (as ++ bs)) : InQuotes bs where
  shown c hc := h.shown c (List.mem_append_right as hc)
  separators c hc := h.separators c (List.mem_append_right as hc)
  apart := (List.isChain_append.mp h.apart).2.1

/-- What stands first decides whether the lines start with a gap. -/
theorem InQuotes.solid_lines {cs : List Char} (h : InQuotes cs) (indent : Nat)
    (other : ∀ c ∈ cs.head?, c ≠ ' ') (stops : ∀ c ∈ cs.head?, isBreak c = false)
    (rest : List Char) : Solid (lines indent cs ++ rest) := by
  intro d hd
  cases cs with
  | nil =>
    obtain rfl : '\x27' = d := by simpa [lines, doubled, indented, isBreak] using hd
    rfl
  | cons c cs =>
    by_cases quote : c = '\x27'
    · obtain rfl : '\x27' = d := by simpa [quote, lines_quote] using hd
      rfl
    · obtain rfl : c = d := by simpa [lines_char (stops c rfl) quote] using hd
      exact isGap_of_isShown (h.shown c List.mem_cons_self) (other c rfl) (stops c rfl)

/-- **What is written between single quotes is read back.** -/
theorem readQuotedFrom_lines {indent : Nat} (positive : 0 < indent) {cs : List Char}
    (h : InQuotes cs) {fuel : Nat} (enough : cs.length < fuel) (acc after : List Char)
    (line column : Nat) (inside : 0 < column) :
    ∃ line' column', readQuotedFrom '\x27' fuel acc
        ⟨lines indent cs ++ '\n' :: after, line, column⟩ =
      some (acc.reverse ++ cs, ⟨'\n' :: after, line', column'⟩) := by
  induction fuel generalizing cs acc line column with
  | zero => exact absurd enough (Nat.not_lt_zero _)
  | succ fuel ih =>
    cases cs with
    | nil =>
      refine ⟨line, column + 1, ?_⟩
      rw [List.append_nil]
      exact readQuotedFrom_end fuel acc line inside (.inr rfl)
    | cons c cs =>
      have rest : InQuotes cs := InQuotes.of_append (show InQuotes ([c] ++ cs) from h)
      have shorter : cs.length < fuel := Nat.lt_of_succ_lt_succ enough
      by_cases space : c = ' '
      · -- A run of spaces, which no line break ends.
        subst space
        obtain ⟨n, cs, rfl, other⟩ := exists_spaces cs
        have run : ' ' :: (spaces n ++ cs) = spaces (n + 1) ++ cs := rfl
        rw [run] at h ⊢
        have stops : ∀ c ∈ cs.head?, isBreak c = false := by
          intro c hc
          have last : (spaces (n + 1)).getLast? = some ' ' := by
            rw [spaces, List.replicate_succ', List.getLast?_concat]
          have apart := (List.isChain_append.mp h.apart).2.2 ' ' last c hc
          simpa using apart.2
        obtain ⟨line', column', read⟩ := ih h.of_append (by simp at shorter; omega)
          ((spaces (n + 1)).reverse ++ acc) line (column + (n + 1)) (by omega)
        refine ⟨line', column', ?_⟩
        rw [lines_spaces, List.append_assoc, readQuotedFrom_spaces fuel acc line inside n
          (h.of_append.solid_lines indent other stops _), read]
        simp [spaces, List.replicate_succ]
      · cases ends : isBreak c with
        | true =>
          -- A run of line breaks, behind which no space stands.
          obtain ⟨bs, cs, rfl, breaks, stops⟩ := exists_span isBreak cs
          have breaks : ∀ d ∈ c :: bs, isBreak d = true := List.forall_mem_cons.mpr ⟨ends, breaks⟩
          rw [← List.cons_append] at h ⊢
          have other : ∀ d ∈ cs.head?, d ≠ ' ' := by
            intro d hd same
            obtain ⟨b, last, ends⟩ := exists_getLast? breaks (List.cons_ne_nil c bs)
            have apart := (List.isChain_append.mp h.apart).2.2 b last d hd
            exact apart.1 ⟨ends, same⟩
          have separators : ∀ d ∈ c :: bs, d ≠ '\n' := fun d hd =>
            h.separators d (List.mem_append_left cs hd)
          obtain ⟨line', column', read⟩ := ih h.of_append (by simp at shorter; omega)
            ((c :: bs).reverse ++ acc) (line + (c :: bs).length) indent positive
          refine ⟨line', column', ?_⟩
          rw [lines_breaks breaks (List.cons_ne_nil c bs) stops, List.append_assoc, List.append_assoc,
            readQuotedFrom_breaks fuel acc line inside breaks separators indent
              (h.of_append.solid_lines indent other stops _), read]
          simp
        | false =>
          by_cases quote : c = '\x27'
          · subst quote
            obtain ⟨line', column', read⟩ := ih rest shorter ('\x27' :: acc) line (column + 2)
              (by omega)
            refine ⟨line', column', ?_⟩
            rw [lines_quote, List.cons_append, List.cons_append,
              readQuotedFrom_doubled fuel acc line inside, read]
            simp
          · obtain ⟨line', column', read⟩ := ih rest shorter (c :: acc) line (column + 1) (by omega)
            have solid := isGap_of_isShown (h.shown c List.mem_cons_self) space ends
            refine ⟨line', column', ?_⟩
            rw [lines_char ends quote, List.cons_append, readQuotedFrom_char fuel acc line inside solid
              quote (fun h => absurd h.2 (by decide)), read]
            simp

/-! ## The two kinds of quotes -/

/-- A scalar between double quotes at the end of a line. -/
theorem readQuoted_doubleQuoted (cs after : List Char) (line column : Nat) :
    ∃ column', readQuoted '"' ⟨doubleQuoted cs ++ '\n' :: after, line, column⟩ =
      some (cs, ⟨'\n' :: after, line, column'⟩) := by
  have next : Place.next ⟨doubleQuoted cs ++ '\n' :: after, line, column⟩ =
      ⟨cs.flatMap escapeText ++ '"' :: '\n' :: after, line, column + 1⟩ := by
    simp [doubleQuoted, Place.next, isBreak]
  rw [readQuoted, next]
  refine readQuotedFrom_doubleQuoted ?_ [] after line (column + 1) (Nat.succ_pos column)
  simp only [Place.fuel, doubleQuoted, List.length_append, List.length_cons]
  omega

/-- A scalar between single quotes at the end of a line. -/
theorem readQuoted_singleQuoted {indent : Nat} (positive : 0 < indent) {cs : List Char}
    (h : InQuotes cs) (after : List Char) (line column : Nat) :
    ∃ line' column', readQuoted '\x27' ⟨singleQuoted indent cs ++ '\n' :: after, line, column⟩ =
      some (cs, ⟨'\n' :: after, line', column'⟩) := by
  have written : singleQuoted indent cs = '\x27' :: lines indent cs := rfl
  have next : Place.next ⟨singleQuoted indent cs ++ '\n' :: after, line, column⟩ =
      ⟨lines indent cs ++ '\n' :: after, line, column + 1⟩ := by
    simp [written, Place.next, isBreak]
  rw [readQuoted, next]
  refine readQuotedFrom_lines positive h ?_ [] after line (column + 1) (Nat.succ_pos column)
  have whole := (length_le_doubled cs).trans (Nat.le_succ _)
  have enough : cs.length ≤ (lines indent cs).length := by
    refine Nat.le_trans ?_ (length_le_indented indent false _)
    simpa using whole
  simp only [Place.fuel, written, List.length_append, List.length_cons]
  omega

/-! ## Characters of what is written -/

theorem isShown_doubleQuoted (cs : List Char) : ∀ c ∈ doubleQuoted cs, isShown c = true := by
  have escaped (c : Char) : ∀ d ∈ escapeText c, isShown d = true := by
    intro d hd
    rcases escapeText_cases c with ⟨written, shown, -⟩ | ⟨e, written, escapes⟩
    · rw [written, List.mem_singleton] at hd
      rw [hd]
      exact shown
    · rw [written, List.mem_cons] at hd
      rcases hd with rfl | hd
      · decide
      · exact escapes.shown d hd
  intro d hd
  simp only [doubleQuoted, List.mem_cons, List.mem_append, List.mem_flatMap] at hd
  rcases hd with rfl | ⟨c, -, hd⟩ | rfl | ⟨⟨⟩⟩
  · decide
  · exact escaped c d hd
  · decide

theorem mem_indented {c : Char} {indent : Nat} {first : Bool} {cs : List Char}
    (hc : c ∈ indented indent first cs) : c ∈ cs ∨ c = ' ' := by
  induction cs generalizing first with
  | nil => cases hc
  | cons d cs ih =>
    have later {first : Bool} (hc : c ∈ d :: indented indent first cs) : c ∈ d :: cs ∨ c = ' ' := by
      rcases List.mem_cons.mp hc with rfl | hc
      · exact .inl List.mem_cons_self
      · exact (ih hc).imp_left (List.mem_cons_of_mem d)
    rw [indented] at hc
    split at hc
    · exact later hc
    · rcases List.mem_append.mp hc with hc | hc
      · split at hc
        · exact .inr (List.mem_replicate.mp hc).2
        · cases hc
      · exact later hc

theorem isShown_indented {cs : List Char} (shown : ∀ c ∈ cs, isShown c = true) (indent : Nat)
    (first : Bool) : ∀ c ∈ indented indent first cs, isShown c = true := by
  intro c hc
  rcases mem_indented hc with hc | rfl
  · exact shown c hc
  · decide

theorem isShown_singleQuoted {cs : List Char} (shown : ∀ c ∈ cs, isShown c = true) (indent : Nat) :
    ∀ c ∈ singleQuoted indent cs, isShown c = true := by
  have inside : ∀ c ∈ doubled cs ++ ['\x27'], isShown c = true := by
    intro d hd
    simp only [doubled, List.mem_append, List.mem_flatMap, List.mem_singleton] at hd
    rcases hd with ⟨c, hc, hd⟩ | rfl
    · have same : d = c := by
        split at hd <;> simp_all
      rw [same]
      exact shown c hc
    · decide
  exact List.forall_mem_cons.mpr ⟨by decide, isShown_indented inside indent false⟩

end FilterStore.Yaml
