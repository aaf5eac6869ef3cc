import FilterStore.Yaml.Printer

/-!
# Plain scalars are read back

A value is written at the end of a line, and the next line belongs to another entry: it is not
indented as deep as the value may go on.  So a scalar ends with its line, and what the reader leaves
is the start of the next one.

A plain scalar is words with spaces between them.  The reader takes it word by word and keeps the
gaps.
-/

namespace FilterStore.Yaml

/-- A text is what satisfies a condition, and behind it something that does not start with such. -/
theorem exists_span (p : Char → Bool) (cs : List Char) :
    ∃ as bs, cs = as ++ bs ∧ (∀ c ∈ as, p c = true) ∧ ∀ c ∈ bs.head?, p c = false := by
  refine ⟨cs.takeWhile p, cs.dropWhile p, List.takeWhile_append_dropWhile.symm,
    List.all_eq_true.mp List.all_takeWhile, fun c hc => ?_⟩
  have stops := List.head?_dropWhile_not p cs
  rw [show (cs.dropWhile p).head? = some c from hc] at stops
  simpa using stops

/-- A text of characters that are shown is uniform. -/
theorem uniform_of_isShown {cs : List Char} (shown : ∀ c ∈ cs, isShown c = true) :
    uniform cs = some cs := by
  induction cs with
  | nil => rfl
  | cons c cs ih =>
    obtain ⟨first, others⟩ := List.forall_mem_cons.mp shown
    have feed : c ≠ '\r' := by
      rintro rfl
      cases first
    have next : c ≠ '\u0085' := by
      rintro rfl
      cases first
    have allowed : isAllowed c = true := by
      simp only [isShown, isAllowed, Bool.or_eq_true, Bool.and_eq_true, beq_iff_eq, bne_iff_ne,
        decide_eq_true_eq] at first ⊢
      omega
    simp [uniform, feed, next, allowed, ih others]

/-- What holds of all characters holds of the last one. -/
theorem exists_getLast? {p : Char → Bool} {cs : List Char} (all : ∀ c ∈ cs, p c = true)
    (some' : cs ≠ []) : ∃ c, cs.getLast? = some c ∧ p c = true :=
  ⟨cs.getLast some', List.getLast?_eq_some_getLast some', all _ (List.getLast_mem some')⟩

/-! ## Lines -/

/-- A text does not start with a gap. -/
def Solid (cs : List Char) : Prop := ∀ c ∈ cs.head?, isGap c = false

/-- A number of spaces. -/
def spaces (n : Nat) : List Char := List.replicate n ' '

@[simp] theorem length_spaces (n : Nat) : (spaces n).length = n := List.length_replicate

theorem spaces_append_cons (n : Nat) (cs : List Char) :
    spaces n ++ ' ' :: cs = ' ' :: (spaces n ++ cs) := by
  induction n with
  | zero => rfl
  | succ n ih => exact congrArg (' ' :: ·) ih

/-- Some spaces and what starts with another character. -/
theorem exists_spaces (cs : List Char) :
    ∃ n rest, cs = spaces n ++ rest ∧ ∀ c ∈ rest.head?, c ≠ ' ' := by
  obtain ⟨blanks, rest, rfl, same, other⟩ := exists_span (· == ' ') cs
  have same : blanks = spaces blanks.length :=
    List.eq_replicate_of_mem fun c hc => by simpa using same c hc
  exact ⟨blanks.length, rest, by rw [← same], fun c hc => by simpa using other c hc⟩

/-- What may stand behind a line: lines the first of which is indented by less than a number of
columns, or nothing. -/
def Follows (least : Nat) (cs : List Char) : Prop :=
  ∃ n rest, n < least ∧ Solid rest ∧ cs = spaces n ++ rest

/-- The place of the first character on a line that is no space. -/
def Place.ofLine (line : Nat) (cs : List Char) : Place :=
  ⟨cs.dropWhile (· == ' '), line, (cs.takeWhile (· == ' ')).length⟩

theorem ne_space_of_solid {c : Char} (solid : isGap c = false) : c ≠ ' ' := by
  rintro rfl
  cases solid

theorem takeWhile_solid {cs : List Char} (solid : Solid cs) : cs.takeWhile (· == ' ') = [] := by
  cases cs with
  | nil => rfl
  | cons c cs =>
    have other := ne_space_of_solid (solid c rfl)
    simp [other]

theorem Place.ofLine_spaces (line n : Nat) {cs : List Char} (solid : Solid cs) :
    Place.ofLine line (spaces n ++ cs) = ⟨cs, line, n⟩ := by
  have none := takeWhile_solid solid
  have all : cs.dropWhile (· == ' ') = cs := by
    have whole := List.takeWhile_append_dropWhile (p := (· == ' ')) (l := cs)
    rwa [none, List.nil_append] at whole
  simp [Place.ofLine, spaces, none, all]

/-! ## Gaps -/

theorem next_space (cs : List Char) (line column : Nat) :
    Place.next ⟨' ' :: cs, line, column⟩ = ⟨cs, line, column + 1⟩ := rfl

theorem next_break {c : Char} (ends : isBreak c = true) (cs : List Char) (line column : Nat) :
    Place.next ⟨c :: cs, line, column⟩ = ⟨cs, line + 1, 0⟩ := by
  simp [Place.next, ends]

theorem readGapFrom_solid {least fuel : Nat} (g : Gap) {cs : List Char} (solid : Solid cs)
    (line column : Nat) :
    readGapFrom least (fuel + 1) g ⟨cs, line, column⟩ = some (g, ⟨cs, line, column⟩) := by
  cases cs with
  | nil => rfl
  | cons c cs =>
    have gap : isSpace c = false ∧ isBreak c = false := by simpa [isGap] using solid c rfl
    simp [readGapFrom, gap]

/-- Spaces in a gap belong to it before its first line break; behind it they are passed over. -/
theorem readGapFrom_spaces (least : Nat) (g : Gap) (n : Nat) {cs : List Char} (solid : Solid cs)
    {fuel : Nat} (enough : n < fuel) (line column : Nat) :
    readGapFrom least fuel g ⟨spaces n ++ cs, line, column⟩ =
      some (if g.endsLine then g else { g with blanks := g.blanks ++ spaces n },
        ⟨cs, line, column + n⟩) := by
  induction n generalizing g fuel column with
  | zero =>
    obtain ⟨fuel, rfl⟩ := Nat.exists_eq_add_of_lt enough
    simp [spaces, readGapFrom_solid g solid]
  | succ n ih =>
    obtain ⟨fuel, rfl⟩ : ∃ m, fuel = m + 1 := ⟨fuel - 1, by omega⟩
    have written : spaces (n + 1) ++ cs = ' ' :: (spaces n ++ cs) := rfl
    have moved : column + (n + 1) = column + 1 + n := by omega
    rw [written, readGapFrom]
    by_cases ended : g.endsLine = true
    · simp [isBreak, isSpace, ended, next_space, ih g (Nat.lt_of_succ_lt_succ enough), moved]
    · have still : Gap.endsLine { g with blanks := g.blanks ++ [' '] } = g.endsLine := rfl
      simp [isBreak, isSpace, ended, next_space, moved, still,
        ih { g with blanks := g.blanks ++ [' '] } (Nat.lt_of_succ_lt_succ enough)]
      rfl

theorem readGapFrom_breaks (least : Nat) (g : Gap) {bs : List Char}
    (breaks : ∀ c ∈ bs, isBreak c = true) (cs : List Char) (fuel line column : Nat) :
    readGapFrom least (fuel + bs.length) g ⟨bs ++ cs, line, column⟩ =
      readGapFrom least fuel { g with breaks := g.breaks ++ bs }
        ⟨cs, line + bs.length, if bs.isEmpty then column else 0⟩ := by
  induction bs generalizing g line column with
  | nil => simp
  | cons b bs ih =>
    obtain ⟨ends, others⟩ := List.forall_mem_cons.mp breaks
    have written : fuel + (b :: bs).length = fuel + bs.length + 1 := rfl
    rw [written, readGapFrom]
    simp only [List.cons_append, ends, if_true]
    rw [next_break ends, ih _ others]
    simp [Nat.add_assoc, Nat.add_comm 1]

/-- The spaces between two words. -/
theorem readGap_spaces (least n : Nat) {cs : List Char} (solid : Solid cs) (line column : Nat) :
    readGap least ⟨spaces n ++ cs, line, column⟩ =
      some (⟨spaces n, []⟩, ⟨cs, line, column + n⟩) := by
  have enough : n < Place.fuel ⟨spaces n ++ cs, line, column⟩ := by
    rw [Place.fuel, List.length_append, length_spaces]
    omega
  rw [readGap, readGapFrom_spaces least _ n solid enough]
  rfl

/-- The end of one line or several, with the indentation of the next one. -/
theorem readGap_breaks (least : Nat) (bs : List Char) (breaks : ∀ c ∈ bs, isBreak c = true)
    (some' : bs ≠ []) (n : Nat) {cs : List Char} (solid : Solid cs) (line column : Nat) :
    readGap least ⟨bs ++ (spaces n ++ cs), line, column⟩ =
      some (⟨[], bs⟩, ⟨cs, line + bs.length, n⟩) := by
  have fuel : Place.fuel ⟨bs ++ (spaces n ++ cs), line, column⟩ = n + cs.length + 1 + bs.length := by
    simp [Place.fuel, spaces]
    omega
  have ended : Gap.endsLine ⟨[], bs⟩ = true := by simpa [Gap.endsLine] using some'
  rw [readGap, fuel, readGapFrom_breaks least _ breaks, List.nil_append,
    readGapFrom_spaces least _ n solid (by omega), if_pos ended]
  simp [some']

/-- The end of a line with what follows it. -/
theorem readGap_lineEnd {least : Nat} (m : Nat) {after : List Char} (follows : Follows least after)
    (line column : Nat) :
    readGap m ⟨'\n' :: after, line, column⟩ = some (⟨[], ['\n']⟩, .ofLine (line + 1) after) := by
  obtain ⟨n, rest, -, solid, rfl⟩ := follows
  rw [Place.ofLine_spaces _ _ solid]
  exact readGap_breaks m ['\n'] (List.forall_mem_singleton.mpr rfl) (List.cons_ne_nil _ _) n solid line column

/-! ## Words -/

theorem atGap_append {cs : List Char} (some' : cs ≠ []) (ds : List Char) :
    atGap (cs ++ ds) = atGap cs := by
  cases cs with
  | nil => exact absurd rfl some'
  | cons c cs => rfl

theorem isGap_eq_false {c : Char} : isGap c = false ↔ isSpace c = false ∧ isBreak c = false :=
  Bool.or_eq_false_iff

theorem marksInside_cons (a c : Char) (cs : List Char) : marksInside (a :: c :: cs) =
    ((c == '#' && isGap a) || (c == ':' && atGap cs) || marksInside (c :: cs)) := by
  cases cs <;> rfl

/-- A colon ends no word if none stands before a gap. -/
theorem colon_of_marksInside {a c : Char} {cs : List Char} (h : marksInside (a :: c :: cs) = false) :
    (c == ':' && atGap cs) = false := by
  simp only [marksInside_cons, Bool.or_eq_false_iff] at h
  exact h.1.2

theorem marksInside_tail {a c : Char} {cs : List Char} (h : marksInside (a :: c :: cs) = false) :
    marksInside (c :: cs) = false := by
  simp only [marksInside_cons, Bool.or_eq_false_iff] at h
  exact h.2

theorem marksInside_append {cs ds : List Char} (h : marksInside (cs ++ ds) = false) :
    marksInside ds = false := by
  induction cs with
  | nil => exact h
  | cons c cs ih =>
    cases cs with
    | nil =>
      cases ds with
      | nil => rfl
      | cons d ds => exact marksInside_tail h
    | cons b cs => exact ih (marksInside_tail h)

/-- **A word ends at the first gap** if no colon in it ends it before. -/
theorem wordLength_append {a : Char} {word rest : List Char} (tail : List Char)
    (marks : marksInside (a :: (word ++ rest)) = false) (solid : ∀ c ∈ word, isGap c = false)
    (ends : atGap (rest ++ tail) = true) :
    wordLength false (word ++ (rest ++ tail)) = some word.length := by
  induction word generalizing a with
  | nil =>
    rw [List.nil_append]
    cases h : rest ++ tail with
    | nil => rfl
    | cons c cs =>
      have gap : isGap c = true := by rwa [h] at ends
      simp [wordLength, gap]
  | cons c word ih =>
    obtain ⟨first, others⟩ := List.forall_mem_cons.mp solid
    have colon : (c == ':' && atGap (word ++ (rest ++ tail))) = false := by
      have inside : (c == ':' && atGap (word ++ rest)) = false := colon_of_marksInside marks
      by_cases last : word ++ rest = []
      · rw [last] at inside
        have other : (c == ':') = false := by simpa [atGap] using inside
        rw [other, Bool.false_and]
      · rw [← List.append_assoc, atGap_append last]
        exact inside
    have others := ih (marksInside_tail marks) others
    simp [wordLength, first, colon, others]

/-! ## Plain scalars -/

theorem skip_append (cs ds : List Char) (line column : Nat) :
    Place.skip cs.length ⟨cs ++ ds, line, column⟩ = ⟨ds, line, column + cs.length⟩ := by
  simp [Place.skip]

theorem atDocument_of_column {p : Place} (inside : 0 < p.column) : p.atDocument = false := by
  have column : (p.column == 0) = false := by simpa using Nat.ne_of_gt inside
  simp [Place.atDocument, Place.atMark, column]

/-- What stands on a line between its first word and its last one. -/
structure OnLine (cs : List Char) : Prop where
  blanks : ∀ c ∈ cs, isGap c = true → c = ' '
  first : Solid cs
  last : ∀ c ∈ cs.getLast?, c ≠ ' '
  marks : marksInside (' ' :: cs) = false

/-- Characters on a line are a word, and then either nothing or spaces and what starts with another
word. -/
theorem OnLine.split {cs : List Char} (h : OnLine cs) (some' : cs ≠ []) :
    ∃ word, word ≠ [] ∧ (∀ c ∈ word, isGap c = false) ∧
      (cs = word ∨ ∃ n rest, OnLine rest ∧ rest ≠ [] ∧ cs = word ++ (spaces (n + 1) ++ rest)) := by
  obtain ⟨word, tail, rfl, solid, stops⟩ := exists_span (fun c => !isGap c) cs
  have solid : ∀ c ∈ word, isGap c = false := fun c hc => by simpa using solid c hc
  refine ⟨word, ?_, solid, ?_⟩
  · rintro rfl
    cases tail with
    | nil => exact some' rfl
    | cons c tail =>
      have gap := stops c rfl
      rw [h.first c rfl] at gap
      cases gap
  · cases tail with
    | nil => exact .inl (List.append_nil word)
    | cons c more =>
      obtain rfl := h.blanks c (by simp) (by simpa using stops c rfl)
      obtain ⟨n, rest, rfl, other⟩ := exists_spaces more
      have before : word ++ ' ' :: (spaces n ++ rest) = (word ++ spaces n) ++ ' ' :: rest := by
        rw [List.append_assoc, spaces_append_cons]
      rw [before] at h
      have some'' : rest ≠ [] := by
        rintro rfl
        exact h.last ' ' (by simp) rfl
      refine .inr ⟨n, rest, ⟨?_, ?_, ?_, ?_⟩, some'', rfl⟩
      · exact fun c hc => h.blanks c (by simp [hc])
      · intro c hc
        cases gap : isGap c with
        | false => rfl
        | true =>
          obtain rfl := h.blanks c (by simp [List.mem_of_mem_head? hc]) gap
          exact absurd rfl (other ' ' hc)
      · intro c hc
        refine h.last c ?_
        rw [Option.mem_def] at hc ⊢
        simp [List.getLast?_append, List.getLast?_cons, hc]
      · have marks := h.marks
        rw [← List.cons_append] at marks
        exact marksInside_append marks

/-- One word of a plain scalar. -/
theorem readPlainFrom_word (least fuel : Nat) {word rest : List Char} (nonempty : word ≠ [])
    (marks : marksInside (' ' :: (word ++ rest)) = false) (solid : ∀ c ∈ word, isGap c = false)
    (tail : List Char) (ends : atGap (rest ++ tail) = true) (some' : rest ++ tail ≠ [])
    (text : List Char) (gap : Gap) (line : Nat) {column : Nat} (inside : 0 < column) :
    readPlainFrom false least (fuel + 1) text gap ⟨word ++ (rest ++ tail), line, column⟩ = (do
      let (g, p) ← readGap least ⟨rest ++ tail, line, column + word.length⟩
      if p.column < least then some (text ++ gap.text ++ word, g.endsLine, p)
      else readPlainFrom false least fuel (text ++ gap.text ++ word) g p) := by
  have document : Place.atDocument ⟨word ++ (rest ++ tail), line, column⟩ = false :=
    atDocument_of_column inside
  have comment : ((word ++ (rest ++ tail)).head? == some '#') = false := by
    cases word with
    | nil => exact absurd rfl nonempty
    | cons c word =>
      simp only [List.cons_append, marksInside_cons, Bool.or_eq_false_iff] at marks
      simpa [isGap, isSpace] using marks.1.1
  have length : word.length ≠ 0 := fun zero => nonempty (List.length_eq_zero_iff.mp zero)
  rw [readPlainFrom]
  simp only [document, comment, wordLength_append tail marks solid ends, length, skip_append, ends,
    List.take_left, Bool.or_self, Bool.false_eq_true, if_false, Option.bind_eq_bind, Option.bind_some,
    List.isEmpty_eq_false_iff.mpr some', Bool.not_true, Bool.not_false, Bool.true_and,
    decide_eq_true_eq]

/-- **The words of a plain scalar are read up to the end of the line.** -/
theorem readPlainFrom_line {least : Nat} {after : List Char} (follows : Follows least after)
    {cs : List Char} (h : OnLine cs) (nonempty : cs ≠ []) {fuel : Nat} (enough : cs.length < fuel)
    (text : List Char) (gap : Gap) (line : Nat) {column : Nat} (inside : least ≤ column)
    (positive : 0 < column) :
    readPlainFrom false least fuel text gap ⟨cs ++ '\n' :: after, line, column⟩ =
      some (text ++ gap.text ++ cs, true, .ofLine (line + 1) after) := by
  induction fuel generalizing cs text gap column with
  | zero => exact absurd enough (Nat.not_lt_zero _)
  | succ fuel ih =>
    obtain ⟨word, some', solid, rfl | ⟨n, rest, others, more, rfl⟩⟩ := h.split nonempty
    · have marks := h.marks
      rw [← List.append_nil cs] at marks
      have step := readPlainFrom_word least fuel some' marks solid ('\n' :: after)
        rfl (List.cons_ne_nil _ _) text gap line positive
      rw [List.nil_append] at step
      rw [step, readGap_lineEnd least follows]
      obtain ⟨m, rest, less, solid, rfl⟩ := follows
      rw [Place.ofLine_spaces _ _ solid]
      simp [less, Gap.endsLine]
    · have step := readPlainFrom_word least fuel some' h.marks solid ('\n' :: after)
        rfl (by simp [spaces]) text gap line positive
      have solid : Solid (rest ++ '\n' :: after) := by
        obtain ⟨c, rest, rfl⟩ := List.exists_cons_of_ne_nil more
        exact others.first
      have shorter : rest.length < fuel := by
        simp [spaces] at enough
        omega
      have reach : ¬ column + word.length + (n + 1) < least := by omega
      rw [List.append_assoc, step, List.append_assoc, readGap_spaces _ _ solid]
      simp only [Option.bind_eq_bind, Option.bind_some, reach, if_false]
      rw [ih others more shorter _ _ (by omega) (by omega)]
      simp [Gap.text, List.append_assoc]

/-- A plain scalar at the end of a line. -/
theorem readPlain_line {least : Nat} {after : List Char} (follows : Follows least after)
    {cs : List Char} (h : OnLine cs) (nonempty : cs ≠ []) (line : Nat) {column : Nat}
    (inside : least ≤ column) (positive : 0 < column) :
    readPlain false least ⟨cs ++ '\n' :: after, line, column⟩ =
      some (cs, true, .ofLine (line + 1) after) := by
  have enough : cs.length < Place.fuel ⟨cs ++ '\n' :: after, line, column⟩ := by
    rw [Place.fuel, List.length_append]
    omega
  exact readPlainFrom_line follows h nonempty enough [] ⟨[], []⟩ line inside positive

/-! ## Keys -/

/-- The characters that mean something: marks, and what words end at. -/
def marks : List Char :=
  [',', '[', ']', '\x7b', '\x7d', '#', '&', '*', '!', '|', '>', '\x27', '"', '%', '@', '\x60',
   '-', '?', ':', '.', ' ', '\t', '\n', '\u2028', '\u2029', '\ufeff']

/-- Characters that are shown and that mean nothing. -/
def IsWord (cs : List Char) : Prop := cs ≠ [] ∧ ∀ c ∈ cs, isShown c = true ∧ c ∉ marks

instance (cs : List Char) : Decidable (IsWord cs) :=
  decidable_of_iff (cs ≠ [] ∧ cs.all (fun c => isShown c && decide (c ∉ marks)) = true)
    (and_congr_right' (by simp only [List.all_eq_true, Bool.and_eq_true, decide_eq_true_eq]))

theorem IsWord.ne {cs : List Char} (h : IsWord cs) {c : Char} (hc : c ∈ cs) {d : Char}
    (hd : d ∈ marks) : c ≠ d := fun same => (h.2 c hc).2 (same ▸ hd)

theorem IsWord.isShown {cs : List Char} (h : IsWord cs) : ∀ c ∈ cs, isShown c = true :=
  fun c hc => (h.2 c hc).1

theorem IsWord.isGap {cs : List Char} (h : IsWord cs) {c : Char} (hc : c ∈ cs) :
    isGap c = false := by
  have other := (h.2 c hc).2
  simp only [marks, List.mem_cons, not_or] at other
  simp [Yaml.isGap, isSpace, isBreak, other]

/-- What a word starts with starts a plain scalar. -/
theorem IsWord.unmarked {cs : List Char} (h : IsWord cs) {c : Char} (hc : c ∈ cs) :
    isIndicator c = false ∧ (c == '-' || c == '?' || c == ':') = false := by
  have other := (h.2 c hc).2
  simp only [marks, List.mem_cons, not_or] at other
  simp [isIndicator, isFlowMark, other]

theorem IsWord.wordLength {cs : List Char} (h : IsWord cs) {more : List Char}
    (gap : atGap more = true) : wordLength false (cs ++ ':' :: more) = some cs.length := by
  have each : ∀ c ∈ cs, Yaml.isGap c = false ∧ (c == ':') = false := fun c hc =>
    ⟨h.isGap hc, by simpa using h.ne hc (d := ':') (by decide)⟩
  clear h
  induction cs with
  | nil => simp [Yaml.wordLength, gap, Yaml.isGap, isSpace, isBreak]
  | cons c cs ih =>
    obtain ⟨⟨solid, other⟩, rest⟩ := List.forall_mem_cons.mp each
    simp [Yaml.wordLength, solid, other, ih rest]

/-- No document starts or ends where a name stands. -/
theorem IsWord.atDocument {cs : List Char} (h : IsWord cs) (more : List Char) (line column : Nat) :
    Place.atDocument ⟨cs ++ more, line, column⟩ = false := by
  obtain ⟨c, cs, rfl⟩ := List.exists_cons_of_ne_nil h.1
  have hyphen := h.ne List.mem_cons_self (d := '-') (by decide)
  have point := h.ne List.mem_cons_self (d := '.') (by decide)
  simp [Place.atDocument, Place.atMark, List.isPrefixOf, hyphen.symm, point.symm]

/-- A name in front of a colon. -/
theorem readPlain_key (least : Nat) {cs : List Char} (h : IsWord cs) {more : List Char}
    (gap : atGap more = true) (line column : Nat) :
    readPlain false least ⟨cs ++ ':' :: more, line, column⟩ =
      some (cs, false, ⟨':' :: more, line, column + cs.length⟩) := by
  have document := h.atDocument (':' :: more) line column
  have comment : ((cs ++ ':' :: more).head? == some '#') = false := by
    obtain ⟨c, cs, rfl⟩ := List.exists_cons_of_ne_nil h.1
    simpa using h.ne List.mem_cons_self (d := '#') (by decide)
  have length : cs.length ≠ 0 := fun zero => h.1 (List.length_eq_zero_iff.mp zero)
  have colon : atGap (':' :: more) = false := rfl
  rw [readPlain, Place.fuel, readPlainFrom]
  simp only [document, comment, h.wordLength gap, length, skip_append, colon, List.take_left,
    Bool.or_self, Bool.false_eq_true, if_false, Option.bind_eq_bind, Option.bind_some,
    List.isEmpty_cons, Bool.not_false, Bool.or_true, if_true]
  rfl

end FilterStore.Yaml
