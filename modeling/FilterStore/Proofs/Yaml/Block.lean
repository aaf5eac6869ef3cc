import FilterStore.Proofs.Yaml.Quoted

/-!
# Blocks of lines are read back

A block is its lines, each indented, and a mark that says what happens to the line breaks at the
end.  The text of a block is cut into lines and runs of line breaks between them; the breaks behind
the last line are a run of their own.  The reader goes from line to line: it takes a line up to its
break, and then the breaks and the indentation in front of the next one.  The first line that is not
indented as deep belongs to what follows.
-/

namespace FilterStore.Yaml

/-! ## Indentation -/

theorem indented_line {line : List Char} (solid : ∀ c ∈ line, isBreak c = false) (indent : Nat)
    (cs : List Char) : indented indent false (line ++ cs) = line ++ indented indent false cs := by
  induction line with
  | nil => rfl
  | cons c line ih =>
    obtain ⟨first, others⟩ := List.forall_mem_cons.mp solid
    rw [List.cons_append, indented_char first, ih others, List.cons_append]

theorem ne_of_isBreak {b c : Char} (ends : isBreak b = true) (solid : isBreak c = false) : b ≠ c := by
  rintro rfl
  rw [ends] at solid
  cases solid

theorem takeWhile_spaces (k : Nat) (rest : List Char) :
    (spaces k ++ rest).takeWhile (· == ' ') = spaces k ++ rest.takeWhile (· == ' ') :=
  List.takeWhile_append_of_pos fun c hc => by simpa [spaces] using (List.mem_replicate.mp hc).2

/-- How deep a line is indented, as far as a number of columns. -/
def Reaches (indent k : Nat) (rest : List Char) : Prop :=
  k = indent ∨ k < indent ∧ ∀ c ∈ rest.head?, c ≠ ' '

theorem Reaches.min_eq {indent k : Nat} {rest : List Char} (h : Reaches indent k rest) :
    min ((spaces k ++ rest).takeWhile (· == ' ')).length indent = k := by
  rw [takeWhile_spaces, List.length_append, spaces, List.length_replicate]
  rcases h with rfl | ⟨less, stops⟩
  · omega
  · have none : rest.takeWhile (· == ' ') = [] := by
      cases rest with
      | nil => rfl
      | cons c rest => simp [stops c rfl]
    rw [none, List.length_nil]
    omega

/-- Line breaks in a margin. -/
theorem readMargin_breaks (indent : Option Nat) {bs : List Char}
    (breaks : ∀ c ∈ bs, isBreak c = true) (fuel : Nat) (read cs : List Char) (line : Nat) :
    readMargin indent (fuel + bs.length) 0 read ⟨bs ++ cs, line, 0⟩ =
      readMargin indent fuel 0 (read ++ bs) ⟨cs, line + bs.length, 0⟩ := by
  induction bs generalizing read line with
  | nil => simp
  | cons b bs ih =>
    obtain ⟨ends, others⟩ := List.forall_mem_cons.mp breaks
    have space : b ≠ ' ' := ne_of_isBreak ends rfl
    have tab : b ≠ '\t' := ne_of_isBreak ends rfl
    have written : fuel + (b :: bs).length = fuel + bs.length + 1 := rfl
    rw [written, readMargin.eq_def]
    cases indent <;>
      simp [space, tab, ends, Place.skip, Place.next, ih others, Nat.add_assoc, Nat.add_comm 1]

/-- A margin ends with the spaces that are skipped, in front of what is neither a break nor a tab. -/
theorem readMargin_skip (indent : Option Nat) {k : Nat} {rest : List Char}
    (skips : indent.elim ((spaces k ++ rest).takeWhile (· == ' ')).length
      (min ((spaces k ++ rest).takeWhile (· == ' ')).length) = k)
    (stops : ∀ c ∈ rest.head?, isBreak c = false ∧ c ≠ '\t') (fuel : Nat) (read : List Char)
    (line : Nat) :
    readMargin indent (fuel + 1) 0 read ⟨spaces k ++ rest, line, 0⟩ =
      some (k, read, ⟨rest, line, k⟩) := by
  have skipped : Place.skip k ⟨spaces k ++ rest, line, 0⟩ = ⟨rest, line, k⟩ := by
    simp [Place.skip, spaces]
  rw [readMargin.eq_def]
  cases indent <;>
    simp only [Option.elim] at skips <;>
    simp only [Nat.sub_zero, skips, skipped, Nat.zero_max] <;>
    cases rest with
    | nil => rfl
    | cons c rest =>
      obtain ⟨solid, tab⟩ := stops c rfl
      simp [solid, tab]

/-- The indentation of a line. -/
theorem readMargin_indentation {indent k : Nat} {rest : List Char} (h : Reaches indent k rest)
    (stops : ∀ c ∈ rest.head?, isBreak c = false ∧ c ≠ '\t') (fuel : Nat) (read : List Char)
    (line : Nat) :
    readMargin (some indent) (fuel + 1) 0 read ⟨spaces k ++ rest, line, 0⟩ =
      some (k, read, ⟨rest, line, k⟩) :=
  readMargin_skip (some indent) h.min_eq stops fuel read line

/-- The indentation of the first line of a block says how deep the others are. -/
theorem readMargin_first {k : Nat} {rest : List Char} (other : ∀ c ∈ rest.head?, c ≠ ' ')
    (stops : ∀ c ∈ rest.head?, isBreak c = false ∧ c ≠ '\t') (fuel line : Nat) :
    readMargin none (fuel + 1) 0 [] ⟨spaces k ++ rest, line, 0⟩ =
      some (k, [], ⟨rest, line, k⟩) := by
  have reaches : Reaches (k + 1) k rest := .inr ⟨Nat.lt_succ_self k, other⟩
  have least := reaches.min_eq
  have skips : ((spaces k ++ rest).takeWhile (· == ' ')).length = k := by omega
  exact readMargin_skip none skips stops fuel [] line

theorem Follows.succ {least : Nat} {after : List Char} (follows : Follows least after) :
    Follows (least + 1) after := by
  obtain ⟨n, rest, less, solid, rfl⟩ := follows
  exact ⟨n, rest, Nat.lt_succ_of_lt less, solid, rfl⟩

/-- What follows a block ends it. -/
theorem Follows.readMargin {indent : Nat} {after : List Char} (follows : Follows indent after)
    (fuel : Nat) (read : List Char) (line : Nat) :
    ∃ k < indent, readMargin (some indent) (fuel + 1) 0 read ⟨after, line, 0⟩ =
      some (k, read, .ofLine line after) ∧ (Place.ofLine line after).column = k := by
  obtain ⟨k, rest, less, solid, rfl⟩ := follows
  have other : ∀ c ∈ rest.head?, c ≠ ' ' := fun c hc => ne_space_of_solid (solid c hc)
  have stops : ∀ c ∈ rest.head?, isBreak c = false ∧ c ≠ '\t' := by
    intro c hc
    obtain ⟨space, ends⟩ := isGap_eq_false.mp (solid c hc)
    refine ⟨ends, ?_⟩
    rintro rfl
    cases space
  rw [Place.ofLine_spaces line k solid]
  exact ⟨k, less, readMargin_indentation (.inr ⟨less, other⟩) stops fuel read line, rfl⟩

/-! ## Lines -/

/-- A block stops where the indentation is another one. -/
theorem readLines_stop {indent : Nat} {p : Place} (other : p.column ≠ indent) (fuel : Nat)
    (text final breaks : List Char) (spaced : Bool) :
    readLines false indent (fuel + 1) text final breaks spaced p =
      some (text, final, breaks, p) := by
  have other : (p.column != indent) = true := by simpa using other
  rw [readLines, other]
  rfl

/-- One line of a block, with the breaks and the indentation behind it. -/
theorem readLines_line {indent : Nat} {l : List Char}
    (solid : ∀ c ∈ l, isBreak c = false) {b : Char} (ends : isBreak b = true) (rest : List Char)
    (fuel : Nat) (text final breaks : List Char) (spaced : Bool) (line : Nat) :
    readLines false indent (fuel + 1) text final breaks spaced ⟨l ++ b :: rest, line, indent⟩ = (do
      let (_, next, p) ← readMargin (some indent) ((b :: rest).length + 1) 0 [] ⟨rest, line + 1, 0⟩
      readLines false indent fuel (text ++ (final ++ breaks) ++ l) [b] next
        ((l ++ b :: rest).head?.any isSpace) p) := by
  have taken : (l ++ b :: rest).takeWhile (fun c => !isBreak c) = l := by
    rw [List.takeWhile_append_of_pos fun c hc => by simp [solid c hc]]
    simp [ends]
  have nonempty : (l ++ b :: rest).isEmpty = false := by simp
  rw [readLines]
  simp only [bne_self_eq_false, nonempty, Bool.or_self, Bool.false_eq_true, if_false, taken,
    skip_append, Bool.false_and, next_break ends]
  rfl

/-- Characters of which neither the first nor the last ends a line. -/
structure Lines (cs : List Char) : Prop where
  nonempty : cs ≠ []
  shown : ∀ c ∈ cs, isShown c = true
  first : ∀ c ∈ cs.head?, isBreak c = false
  last : ∀ c ∈ cs.getLast?, isBreak c = false

/-- Lines are one line, or one with line breaks and others behind it. -/
theorem Lines.split {cs : List Char} (h : Lines cs) :
    ∃ l, l ≠ [] ∧ (∀ c ∈ l, isBreak c = false) ∧
      (cs = l ∨ ∃ b bs rest, (∀ c ∈ b :: bs, isBreak c = true) ∧ Lines rest ∧
        cs = l ++ b :: (bs ++ rest)) := by
  obtain ⟨l, more, rfl, solid, stops⟩ := exists_span (fun c => !isBreak c) cs
  have solid : ∀ c ∈ l, isBreak c = false := fun c hc => by simpa using solid c hc
  refine ⟨l, ?_, solid, ?_⟩
  · rintro rfl
    obtain ⟨c, more, rfl⟩ := List.exists_cons_of_ne_nil h.nonempty
    have ends := stops c rfl
    rw [h.first c rfl] at ends
    cases ends
  · cases more with
    | nil => exact .inl (List.append_nil l)
    | cons b more =>
      obtain ⟨bs, rest, rfl, breaks, first⟩ := exists_span isBreak more
      have ends : isBreak b = true := by simpa using stops b rfl
      have breaks : ∀ c ∈ b :: bs, isBreak c = true := List.forall_mem_cons.mpr ⟨ends, breaks⟩
      refine .inr ⟨b, bs, rest, breaks, ⟨?_, fun c hc => h.shown c (by simp [hc]), first, ?_⟩, rfl⟩
      · rintro rfl
        obtain ⟨c, last, ends⟩ := exists_getLast? breaks (List.cons_ne_nil b bs)
        have solid := h.last c (by simp [List.getLast?_append, last])
        rw [ends] at solid
        cases solid
      · intro c hc
        refine h.last c ?_
        rw [Option.mem_def] at hc ⊢
        simp [List.getLast?_append, List.getLast?_cons, hc]

/-- Behind its indentation the first line starts with a character that no margin has, other than a
space. -/
theorem Lines.stops {cs : List Char} (h : Lines cs) (indent : Nat) (rest more : List Char) :
    ∀ c ∈ (indented indent false (cs ++ rest) ++ more).head?, isBreak c = false ∧ c ≠ '\t' := by
  obtain ⟨c, cs, rfl⟩ := List.exists_cons_of_ne_nil h.nonempty
  have solid := h.first c rfl
  rw [List.cons_append, indented_char solid]
  rintro _ ⟨⟩
  refine ⟨solid, ?_⟩
  rintro rfl
  exact absurd (h.shown '\t' List.mem_cons_self) (by decide)

theorem Lines.indented_true {cs : List Char} (h : Lines cs) (indent : Nat) (rest : List Char) :
    indented indent true (cs ++ rest) = spaces indent ++ indented indent false (cs ++ rest) := by
  refine Yaml.indented_true (by simp [h.nonempty]) (fun c hc => h.first c ?_) indent
  rwa [List.head?_append_of_ne_nil _ h.nonempty] at hc

/-- **The lines of a block are read back**, and with them the break of the last one and those behind
it. -/
theorem readLines_lines {indent : Nat} {after : List Char} (follows : Follows indent after)
    {cs : List Char} (h : Lines cs) {b : Char} {bs : List Char}
    (breaks : ∀ c ∈ b :: bs, isBreak c = true) {fuel : Nat} (enough : cs.length + 1 < fuel)
    (text final before : List Char) (spaced : Bool) (line : Nat) :
    ∃ line', readLines false indent fuel text final before spaced
        ⟨indented indent false (cs ++ b :: bs) ++ after, line, indent⟩ =
      some (text ++ (final ++ before) ++ cs, [b], bs, .ofLine line' after) := by
  induction fuel generalizing cs text final before spaced line with
  | zero => exact absurd enough (Nat.not_lt_zero _)
  | succ fuel ih =>
    obtain ⟨l, some', solid, rfl | ⟨d, ds, rest, between, others, rfl⟩⟩ := h.split
    · obtain ⟨fuel, rfl⟩ : ∃ m, fuel = m + 1 := ⟨fuel - 1, by omega⟩
      have written : indented indent false (cs ++ b :: bs) ++ after = cs ++ b :: (bs ++ after) := by
        have ending := indented_breaks breaks (List.cons_ne_nil b bs) indent false []
        rw [List.append_nil] at ending
        rw [indented_line solid, ending, List.append_assoc]
        simp [indented]
      have margin : (b :: (bs ++ after)).length + 1 = after.length + 1 + 1 + bs.length := by
        simp only [List.length_cons, List.length_append]
        omega
      obtain ⟨k, less, next, column⟩ := follows.readMargin (after.length + 1) bs
        (line + 1 + bs.length)
      refine ⟨line + 1 + bs.length, ?_⟩
      rw [written, readLines_line solid (breaks b List.mem_cons_self), margin,
        readMargin_breaks _ (List.forall_mem_cons.mp breaks).2, List.nil_append, next]
      exact readLines_stop (by omega) fuel _ _ _ _
    · have ends := between d List.mem_cons_self
      have written : indented indent false (l ++ d :: (ds ++ rest) ++ b :: bs) ++ after =
          l ++ d :: (ds ++ (spaces indent ++ (indented indent false (rest ++ b :: bs) ++ after))) := by
        have middle := indented_breaks between (List.cons_ne_nil d ds) indent false (rest ++ b :: bs)
        rw [others.indented_true] at middle
        have cut : l ++ d :: (ds ++ rest) ++ b :: bs = l ++ (d :: ds ++ (rest ++ b :: bs)) := by simp
        rw [cut, indented_line solid, middle]
        simp
      have stops := others.stops indent (b :: bs) after
      generalize tail : indented indent false (rest ++ b :: bs) ++ after = more at written stops
      have margin : (d :: (ds ++ (spaces indent ++ more))).length + 1 =
          (spaces indent ++ more).length + 1 + 1 + ds.length := by
        simp only [List.length_cons, List.length_append]
        omega
      have shorter : rest.length + 1 < fuel := by
        simp only [List.length_cons, List.length_append] at enough
        omega
      obtain ⟨line', read⟩ := ih others shorter (text ++ (final ++ before) ++ l) [d] ds
        ((l ++ d :: (ds ++ (spaces indent ++ more))).head?.any isSpace) (line + 1 + ds.length)
      refine ⟨line', ?_⟩
      rw [written, readLines_line solid ends, margin,
        readMargin_breaks _ (List.forall_mem_cons.mp between).2, List.nil_append,
        readMargin_indentation (.inl rfl) stops]
      rw [tail] at read
      simp only [Option.bind_eq_bind, Option.bind_some, read]
      simp

/-! ## Blocks -/

section Chomping

variable {front : List Char} (last : ∀ c ∈ front.getLast?, isBreak c = false)

include last

/-- A block that ends without a line break says so. -/
theorem chompMark_line : chompMark front = ['-'] := by
  rcases List.eq_nil_or_concat front with rfl | ⟨front, c, rfl⟩
  · rfl
  · have solid := last c (by simp)
    rw [chompMark, List.concat_eq_append, List.reverse_append]
    cases front.reverse <;> simp [solid]

/-- A block that ends with one line break needs no mark. -/
theorem chompMark_break (some' : front ≠ []) {b : Char} (ends : isBreak b = true) :
    chompMark (front ++ [b]) = [] := by
  obtain ⟨front, c, rfl⟩ := (List.eq_nil_or_concat front).resolve_left some'
  have solid := last c (by simp)
  simp [chompMark, ends, solid]

end Chomping

/-- A block that ends with more line breaks, or consists of one, says that they are kept. -/
theorem chompMark_breaks {front tail : List Char} (breaks : ∀ c ∈ tail, isBreak c = true)
    (more : 1 < tail.length ∨ front = [] ∧ tail ≠ []) : chompMark (front ++ tail) = ['+'] := by
  have ends : ∀ c ∈ tail.reverse, isBreak c = true := fun c hc => breaks c (List.mem_reverse.mp hc)
  have length : tail.reverse.length = tail.length := List.length_reverse
  rw [chompMark, List.reverse_append]
  cases h : tail.reverse with
  | nil =>
    have none : tail = [] := List.reverse_eq_nil_iff.mp h
    simp [none] at more
  | cons c others =>
    have first := ends c (by simp [h])
    cases others with
    | nil =>
      rw [h] at length
      obtain rfl : front = [] := by
        rcases more with more | ⟨none, -⟩
        · simp [← length] at more
        · exact none
      simp [first]
    | cons d others =>
      have second := ends d (by simp [h])
      simp [first, second]

/-- A text is what ends in no line break, and line breaks. -/
theorem exists_ending (cs : List Char) :
    ∃ front tail, cs = front ++ tail ∧ (∀ c ∈ tail, isBreak c = true) ∧
      ∀ c ∈ front.getLast?, isBreak c = false := by
  obtain ⟨tail, front, same, breaks, stops⟩ := exists_span isBreak cs.reverse
  refine ⟨front.reverse, tail.reverse, ?_, fun c hc => breaks c (List.mem_reverse.mp hc), ?_⟩
  · rw [← List.reverse_append, ← same, List.reverse_reverse]
  · intro c hc
    rw [List.getLast?_reverse] at hc
    exact stops c hc

theorem indented_concat_break {b : Char} (ends : isBreak b = true) (indent : Nat) (first : Bool)
    (cs : List Char) : indented indent first (cs ++ [b]) = indented indent first cs ++ [b] := by
  induction cs generalizing first with
  | nil => simp [indented, ends]
  | cons c cs ih =>
    rw [List.cons_append]
    cases solid : isBreak c <;> simp [indented, solid, ih]

theorem getLast?_indented (indent : Nat) (first : Bool) (cs : List Char) :
    (indented indent first cs).getLast? = cs.getLast? := by
  induction cs generalizing first with
  | nil => rfl
  | cons c cs ih =>
    cases solid : isBreak c <;> simp [indented, solid, List.getLast?_append, List.getLast?_cons, ih]

/-- What says how deep a block is indented, if its first line does not show it. -/
def hint (cs : List Char) : List Char :=
  if cs.head? == some ' ' || cs.head?.any isBreak then ['2'] else []

/-- A block with the end of its last line. -/
theorem block_lineEnd (indent : Nat) {cs : List Char} (nonempty : cs ≠ []) :
    block indent cs ++ lineEnd (block indent cs) =
      '|' :: (hint cs ++ chompMark cs ++ '\n' :: indented indent true (cs ++ lineEnd cs)) := by
  have written : block indent cs =
    '|' :: (hint cs ++ chompMark cs ++ '\n' :: indented indent true cs) := rfl
  have last : (block indent cs).getLast? = cs.getLast? := by
    have known := List.getLast?_eq_some_getLast nonempty
    simp [written, List.getLast?_cons, List.getLast?_append, getLast?_indented, known]
  rw [lineEnd, last, ← lineEnd, written]
  simp only [lineEnd]
  split
  · simp
  · rw [indented_concat_break (by decide)]
    simp

/-- What the mark for the end of a block says. -/
inductive Marks : List Char → Chomp → Prop
  | strip : Marks ['-'] .strip
  | clip : Marks [] .clip
  | keep : Marks ['+'] .keep

/-- The header of a block. -/
theorem readHeader_marks {mark : List Char} {chomp : Chomp} (marks : Marks mark chomp)
    (cs rest : List Char) (line column : Nat) :
    ∃ depth, readHeader ⟨hint cs ++ mark ++ '\n' :: rest, line, column⟩ =
      some (⟨chomp, depth⟩, ⟨rest, line + 1, 0⟩) ∧
        depth = if hint cs = [] then none else some 2 := by
  unfold hint
  split
  · refine ⟨some 2, ?_, rfl⟩
    cases marks <;> rfl
  · refine ⟨none, ?_, rfl⟩
    cases marks <;> rfl

/-- The text of a block whose first line stands behind some line breaks. -/
theorem Lines.indented_behind {bs cs : List Char} (h : Lines cs)
    (breaks : ∀ c ∈ bs, isBreak c = true) (indent : Nat) (rest : List Char) :
    indented indent true (bs ++ (cs ++ rest)) =
      bs ++ (spaces indent ++ indented indent false (cs ++ rest)) := by
  by_cases none : bs = []
  · rw [none]
    exact h.indented_true indent rest
  · rw [indented_breaks breaks none, h.indented_true]

/-- The margin of a block that says how deep it is indented. -/
theorem Lines.readMargin_hinted {bs cs : List Char} (h : Lines cs)
    (breaks : ∀ c ∈ bs, isBreak c = true) (indent : Nat) (rest after : List Char) (line : Nat) :
    ∃ line', readMargin (some indent)
        (Place.fuel ⟨indented indent true (bs ++ (cs ++ rest)) ++ after, line, 0⟩) 0 []
        ⟨indented indent true (bs ++ (cs ++ rest)) ++ after, line, 0⟩ =
      some (indent, bs, ⟨indented indent false (cs ++ rest) ++ after, line', indent⟩) := by
  have stops := h.stops indent rest after
  have fuel : Place.fuel ⟨indented indent true (bs ++ (cs ++ rest)) ++ after, line, 0⟩ =
      indent + (indented indent false (cs ++ rest) ++ after).length + 1 + bs.length := by
    simp only [Place.fuel, h.indented_behind breaks, List.length_append, spaces,
      List.length_replicate]
    omega
  refine ⟨line + bs.length, ?_⟩
  rw [fuel, h.indented_behind breaks, List.append_assoc, List.append_assoc,
    readMargin_breaks _ breaks, List.nil_append]
  exact readMargin_indentation (.inl rfl) stops _ bs _

/-- The margin of a block that does not say it. -/
theorem Lines.readMargin_first {cs : List Char} (h : Lines cs) (other : ∀ c ∈ cs.head?, c ≠ ' ')
    (indent : Nat) (rest after : List Char) (line : Nat) :
    readMargin none (Place.fuel ⟨indented indent true (cs ++ rest) ++ after, line, 0⟩) 0 []
        ⟨indented indent true (cs ++ rest) ++ after, line, 0⟩ =
      some (indent, [], ⟨indented indent false (cs ++ rest) ++ after, line, indent⟩) := by
  have stops := h.stops indent rest after
  rw [h.indented_true, List.append_assoc]
  refine Yaml.readMargin_first ?_ stops _ line
  obtain ⟨c, cs, rfl⟩ := List.exists_cons_of_ne_nil h.nonempty
  rw [List.cons_append, indented_char (h.first c rfl)]
  rintro _ ⟨⟩
  exact other c rfl

/-- What a block stands for, by the mark for its end. -/
def Chomp.ending : Chomp → List Char → List Char → List Char
  | .strip, _, _ => []
  | .clip, final, _ => final
  | .keep, final, breaks => final ++ breaks

/-- The rest of a block behind its header. -/
theorem readBlock_eq (least : Nat) (p : Place) {header : Header} {q : Place}
    (head : readHeader p = some (header, q)) : readBlock false least p = (do
      let given := header.depth.map (least - 1 + ·)
      let (deepest, breaks, p) ← readMargin given q.fuel 0 [] q
      let (text, final, breaks, p) ← readLines false (given.getD (max deepest (max least 1)))
        p.fuel [] [] breaks false p
      some (text ++ header.chomp.ending final breaks, p)) := by
  rw [readBlock, head]
  simp only [Option.bind_eq_bind, Option.bind_some]
  refine Option.bind_congr fun x _ => Option.bind_congr fun y _ => ?_
  cases header.chomp <;> rfl

/-- A block without a hint starts with a character that is neither a break nor a space. -/
theorem of_hint_eq_nil {cs : List Char} (h : hint cs = []) :
    (∀ c ∈ cs.head?, isBreak c = false) ∧ ∀ c ∈ cs.head?, c ≠ ' ' := by
  unfold hint at h
  split at h
  · cases h
  · rename_i plain
    cases cs with
    | nil => exact ⟨nofun, nofun⟩
    | cons c cs =>
      simp only [List.head?_cons, Option.any_some, Bool.or_eq_true, not_or] at plain
      refine ⟨?_, ?_⟩
      · rintro _ ⟨⟩
        simpa using plain.2
      · rintro _ ⟨⟩
        simpa using plain.1

/-- **A block of lines is read back.** -/
theorem readBlock_lines {least : Nat} (positive : 0 < least) {after : List Char}
    (follows : Follows least after) {text bs cs : List Char} (same : text = bs ++ cs)
    (leading : ∀ c ∈ bs, isBreak c = true) (h : Lines cs) {b : Char} {ds : List Char}
    (breaks : ∀ c ∈ b :: ds, isBreak c = true) {mark : List Char} {chomp : Chomp}
    (marks : Marks mark chomp) (line column : Nat) :
    ∃ line', readBlock false least ⟨hint text ++ mark ++ '\n' ::
        (indented (least + 1) true (bs ++ (cs ++ b :: ds)) ++ after), line, column⟩ =
      some (text ++ chomp.ending [b] ds, .ofLine line' after) := by
  subst same
  obtain ⟨depth, head, depth_eq⟩ := readHeader_marks marks (bs ++ cs)
    (indented (least + 1) true (bs ++ (cs ++ b :: ds)) ++ after) line column
  -- The margin is `bs`, and the lines are `least + 1` deep.
  have margin : ∃ deepest line', readMargin (depth.map (least - 1 + ·))
      (Place.fuel ⟨indented (least + 1) true (bs ++ (cs ++ b :: ds)) ++ after, line + 1, 0⟩) 0 []
      ⟨indented (least + 1) true (bs ++ (cs ++ b :: ds)) ++ after, line + 1, 0⟩ =
        some (deepest, bs, ⟨indented (least + 1) false (cs ++ b :: ds) ++ after, line', least + 1⟩) ∧
      (depth.map (least - 1 + ·)).getD (max deepest (max least 1)) = least + 1 := by
    by_cases none : hint (bs ++ cs) = []
    · rw [if_pos none] at depth_eq
      obtain ⟨solid, other⟩ := of_hint_eq_nil none
      obtain rfl : bs = [] := by
        cases bs with
        | nil => rfl
        | cons c bs =>
          have ends := leading c List.mem_cons_self
          rw [solid c rfl] at ends
          cases ends
      subst depth_eq
      exact ⟨least + 1, line + 1, h.readMargin_first other (least + 1) (b :: ds) after (line + 1),
        show max (least + 1) (max least 1) = least + 1 by omega⟩
    · rw [if_neg none] at depth_eq
      subst depth_eq
      have deep : least - 1 + 2 = least + 1 := by omega
      obtain ⟨line', read⟩ := h.readMargin_hinted leading (least + 1) (b :: ds) after (line + 1)
      refine ⟨least + 1, line', ?_, deep⟩
      rw [Option.map_some, deep]
      exact read
  obtain ⟨deepest, line', read, deep⟩ := margin
  have enough : cs.length + 1 <
      Place.fuel ⟨indented (least + 1) false (cs ++ b :: ds) ++ after, line', least + 1⟩ := by
    have whole := length_le_indented (least + 1) false (cs ++ b :: ds)
    simp only [Place.fuel, List.length_append, List.length_cons] at whole ⊢
    omega
  obtain ⟨line'', lines⟩ := readLines_lines follows.succ h breaks enough [] [] bs false line'
  refine ⟨line'', ?_⟩
  rw [readBlock_eq least _ head]
  simp only [read, deep, lines, Option.bind_eq_bind, Option.bind_some]
  simp

/-- A block that consists of line breaks. -/
theorem readBlock_breaks {least : Nat} (positive : 0 < least) {after : List Char}
    (follows : Follows least after) {bs : List Char} (breaks : ∀ c ∈ bs, isBreak c = true)
    (nonempty : bs ≠ []) (line column : Nat) :
    ∃ line', readBlock false least ⟨hint bs ++ ['+'] ++ '\n' ::
        (indented (least + 1) true bs ++ after), line, column⟩ =
      some (bs, .ofLine line' after) := by
  have hinted : hint bs ≠ [] := by
    intro none
    obtain ⟨b, bs, rfl⟩ := List.exists_cons_of_ne_nil nonempty
    have ends := breaks b List.mem_cons_self
    rw [(of_hint_eq_nil none).1 b rfl] at ends
    cases ends
  have same : indented (least + 1) true bs = bs := by
    have whole := indented_breaks breaks nonempty (least + 1) true []
    simpa [indented] using whole
  obtain ⟨depth, head, depth_eq⟩ := readHeader_marks .keep bs (bs ++ after) line column
  rw [if_neg hinted] at depth_eq
  subst depth_eq
  obtain ⟨k, less, next, apart⟩ := follows.succ.readMargin (after.length) bs (line + 1 + bs.length)
  have margin : Place.fuel ⟨bs ++ after, line + 1, 0⟩ = after.length + 1 + bs.length := by
    simp only [Place.fuel, List.length_append]
    omega
  have deep : least - 1 + 2 = least + 1 := by omega
  refine ⟨line + 1 + bs.length, ?_⟩
  rw [same, readBlock_eq least _ head]
  simp only [Option.map_some, deep, margin, readMargin_breaks _ breaks, List.nil_append, next,
    Option.bind_eq_bind, Option.bind_some, Option.getD_some]
  rw [Place.fuel, readLines_stop (by omega)]
  rfl

theorem lineEnd_breaks {tail : List Char} (breaks : ∀ c ∈ tail, isBreak c = true) (some' : tail ≠ [])
    (front : List Char) : lineEnd (front ++ tail) = [] := by
  obtain ⟨c, last, ends⟩ := exists_getLast? breaks some'
  simp [lineEnd, List.getLast?_append, last, ends]

theorem lineEnd_line {front : List Char} (last : ∀ c ∈ front.getLast?, isBreak c = false) :
    lineEnd front = ['\n'] := by
  have solid : front.getLast?.any isBreak = false := by
    cases known : front.getLast? with
    | none => rfl
    | some c => exact last c known
  simp [lineEnd, solid]

/-- What is written as a block at the end of a line is read back. -/
theorem readBlock_block {least : Nat} (positive : 0 < least) {after : List Char}
    (follows : Follows least after) {cs : List Char} (shown : ∀ c ∈ cs, isShown c = true)
    (nonempty : cs ≠ []) (line column : Nat) :
    ∃ line', readBlock false least ⟨hint cs ++ chompMark cs ++ '\n' ::
        (indented (least + 1) true (cs ++ lineEnd cs) ++ after), line, column⟩ =
      some (cs, .ofLine line' after) := by
  obtain ⟨front, tail, rfl, breaks, last⟩ := exists_ending cs
  by_cases none : front = []
  · subst none
    rw [List.nil_append] at nonempty ⊢
    have mark : chompMark tail = ['+'] := chompMark_breaks breaks (.inr ⟨rfl, nonempty⟩)
    have ended : lineEnd tail = [] := lineEnd_breaks breaks nonempty []
    rw [mark, ended, List.append_nil]
    exact readBlock_breaks positive follows breaks nonempty line column
  · obtain ⟨bs, cs, rfl, leading, first⟩ := exists_span isBreak front
    have lines : Lines cs := by
      refine ⟨?_, fun c hc => shown c (by simp [hc]), first, ?_⟩
      · rintro rfl
        obtain ⟨c, known, ends⟩ := exists_getLast? leading (by simpa using none)
        have solid := last c (by simpa using known)
        rw [ends] at solid
        cases solid
      · intro c hc
        refine last c ?_
        rw [Option.mem_def] at hc ⊢
        simp [List.getLast?_append, hc]
    have head : hint (bs ++ cs ++ tail) = hint (bs ++ cs) := by
      rw [hint, List.head?_append_of_ne_nil _ none, ← hint]
    rw [head]
    match tail, breaks with
    | [], _ =>
      have feed : ∀ c ∈ ['\n'], isBreak c = true := List.forall_mem_singleton.mpr rfl
      rw [List.append_nil, lineEnd_line last, chompMark_line last]
      have read := readBlock_lines positive follows rfl leading lines feed .strip line column
      simpa [Chomp.ending] using read
    | [b], breaks =>
      have mark := chompMark_break last none (breaks b List.mem_cons_self)
      rw [lineEnd_breaks breaks (List.cons_ne_nil b []), List.append_nil, mark]
      have read := readBlock_lines positive follows rfl leading lines breaks .clip line column
      simpa [Chomp.ending] using read
    | b :: d :: ds, breaks =>
      have mark : chompMark (bs ++ cs ++ b :: d :: ds) = ['+'] :=
        chompMark_breaks breaks (.inl (by simp))
      rw [lineEnd_breaks breaks (List.cons_ne_nil b _), List.append_nil, mark]
      have read := readBlock_lines positive follows rfl leading lines breaks .keep line column
      simpa [Chomp.ending] using read

end FilterStore.Yaml
