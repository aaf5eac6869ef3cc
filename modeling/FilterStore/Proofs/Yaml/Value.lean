import FilterStore.Proofs.Yaml.Line

/-!
# Written values are read back

A value stands behind the name of an entry, up to the end of a line.  What it is written as takes no
notice of what comes next, so the same has to hold of what is read: a text is written for a scalar if
the scanner takes it for that scalar *whatever lines follow*, as long as they belong to other entries.

That holds of a string in each of its four forms, so it holds of a string.
-/

namespace FilterStore.Yaml

open Scan (Standing)

/-- A text up to the end of a line is a scalar as the value of an entry at a column. -/
structure IsWritten (column : Nat) (written : List Char) (text : String) (style : Style) : Prop where
  nonempty : written ≠ []
  starts : Starts written
  shown : ∀ c ∈ written, isShown c = true
  read : ∀ {after : List Char}, Next (column + 1) after → ∀ (line : Nat) {behind : Nat},
    column < behind → ∀ (ts : List Token) (outer : List Nat), ∃ t,
      Scan.readToken
          ⟨⟨written ++ after, line, behind⟩, ts.toArray, column :: outer, [none], false⟩ = some t ∧
        t.Standing after (ts ++ [.scalar text style]) (column :: outer)

/-- The scan goes from the space behind a name over its value. -/
theorem IsWritten.readAll {column : Nat} {written : List Char} {text : String} {style : Style}
    (h : IsWritten column written text style) {after : List Char} (next : Next (column + 1) after)
    (line : Nat) {behind : Nat} (inside : column ≤ behind) (ts : List Token) (outer : List Nat) :
    ∃ t, (∀ n, Scan.readAll (n + 1) ⟨⟨' ' :: (written ++ after), line, behind⟩, ts.toArray,
        column :: outer, [none], false⟩ = Scan.readAll n t) ∧
      t.Standing after (ts ++ [.scalar text style]) (column :: outer) := by
  have starts : Starts (written ++ after) := by
    obtain ⟨c, rest, rfl⟩ := List.exists_cons_of_ne_nil h.nonempty
    exact h.starts
  obtain ⟨t, read, standing⟩ := h.read next line (Nat.lt_succ_of_le inside) ts outer
  have within : ∀ i ∈ (column :: outer).head?, i ≤ behind + 1 := by
    rintro _ ⟨⟩
    exact Nat.le_succ_of_le inside
  have some' : written ++ after ≠ [] := List.append_ne_nil_of_left_ne_nil h.nonempty after
  refine ⟨t, fun n => ?_, standing⟩
  exact Scan.readAll_step (Scan.skipSilent_spaces (n := 1) starts _ line behind ts.toArray _ _ _)
    (Scan.dropStaleKeys_none _ _ _ _) some'
    ((congrArg Scan.readToken (Scan.close_stays within _ ts none false)).trans read) n

/-! ## Tokens of values -/

section Tokens

variable {q : Place} {column : Nat} {cs : List Char} (ts : List Token) (outer : List Nat)

theorem readPlain_value {p : Place} {endsLine : Bool}
    (read : readPlain false (column + 1) p = some (cs, endsLine, q)) :
    Scan.readPlain ⟨p, ts.toArray, column :: outer, [none], false⟩ =
      some ⟨q, (ts ++ [Token.scalar (String.ofList cs) .plain]).toArray, column :: outer, [none],
        endsLine⟩ := by
  simp [Scan.readPlain, Scan.saveKey, Scan.inFlow, Scan.least, read, Scan.allowKey, Scan.goTo,
    Scan.push]

variable {rest : List Char} {line behind : Nat} (inside : 0 < behind)
include inside

theorem readToken_quoted {quote : Char} (either : quote = '"' ∨ quote = '\x27')
    (read : readQuoted quote ⟨quote :: rest, line, behind⟩ = some (cs, q)) :
    Scan.readToken ⟨⟨quote :: rest, line, behind⟩, ts.toArray, column :: outer, [none], false⟩ =
      some ⟨q, (ts ++ [Token.scalar (String.ofList cs) .quoted]).toArray, column :: outer, [none],
        false⟩ := by
  have document : Place.atDocument ⟨quote :: rest, line, behind⟩ = false :=
    atDocument_of_column inside
  have node : Scan.readQuoted quote
      ⟨⟨quote :: rest, line, behind⟩, ts.toArray, column :: outer, [none], false⟩ =
        some ⟨q, (ts ++ [Token.scalar (String.ofList cs) .quoted]).toArray, column :: outer, [none],
          false⟩ := by
    simp [Scan.readQuoted, Scan.readNode, Scan.saveKey, read, Scan.allowKey, Scan.goTo, Scan.push]
  rw [Place.atDocument, Bool.or_eq_false_iff] at document
  rw [← node]
  rcases either with rfl | rfl <;> simp [Scan.readToken, document]

theorem readToken_block
    (read : readBlock false (column + 1) ⟨rest, line, behind + 1⟩ = some (cs, q)) :
    Scan.readToken ⟨⟨'|' :: rest, line, behind⟩, ts.toArray, column :: outer, [none], false⟩ =
      some ⟨q, (ts ++ [Token.scalar (String.ofList cs) .literal]).toArray, column :: outer, [none],
        true⟩ := by
  have document : Place.atDocument ⟨'|' :: rest, line, behind⟩ = false :=
    atDocument_of_column inside
  rw [Place.atDocument, Bool.or_eq_false_iff] at document
  simp [Scan.readToken, document, Scan.inFlow, Scan.readBlock, Scan.dropKey, Scan.least, Place.skip,
    read, Scan.allowKey, Scan.goTo, Scan.push]

end Tokens

/-! ## Plain values -/

/-- What starts with no mark starts a plain scalar. -/
theorem of_marksStart {c : Char} {rest : List Char} (h : marksStart (c :: rest) = false) :
    isIndicator c = false ∧
      ((c == '-' || c == '?' || c == ':') = true → ∃ d more, rest = d :: more ∧ isGap d = false) := by
  rw [marksStart.eq_def] at h
  by_cases marked : (c == '?' || c == ':' || c == '-') = true
  · cases rest with
    | nil => simp [marked] at h
    | cons d more =>
      simp only [marked, if_true] at h
      refine ⟨?_, fun _ => ⟨d, more, rfl, h⟩⟩
      simp only [Bool.or_eq_true, beq_iff_eq] at marked
      rcases marked with (rfl | rfl) | rfl <;> decide
  · simp only [marked] at h
    refine ⟨h, fun mark => absurd ?_ marked⟩
    simp only [Bool.or_eq_true] at mark ⊢
    tauto

/-- A space in front of a text without marks makes none. -/
theorem marksInside_space {cs : List Char} (start : marksStart cs = false)
    (inside : marksInside cs = false) : marksInside (' ' :: cs) = false := by
  cases cs with
  | nil => rfl
  | cons c rest =>
    obtain ⟨indicator, mark⟩ := of_marksStart start
    have comment : (c == '#') = false := by
      simp only [isIndicator, Bool.or_eq_false_iff] at indicator
      exact indicator.1.1.1.1.1.1.1.1.1.1.2
    have colon : (c == ':' && atGap rest) = false := by
      cases same : c == ':' with
      | false => rfl
      | true =>
        obtain ⟨d, more, rfl, solid⟩ := mark (by simp [same])
        exact solid
    simp [marksInside_cons, comment, colon, inside]

/-- What fits plain stands on one line. -/
theorem onLine_of_fitsPlain {cs : List Char} (shown : ∀ c ∈ cs, isShown c = true)
    (fits : fitsPlain cs = true) : OnLine cs := by
  simp only [fitsPlain, Bool.not_eq_true', Bool.or_eq_false_iff, List.any_eq_false,
    Bool.not_eq_true, beq_eq_false_iff_ne, ne_eq] at fits
  obtain ⟨⟨⟨⟨⟨start, inside⟩, -⟩, solid⟩, first⟩, last⟩ := fits
  have blanks : ∀ c ∈ cs, isGap c = true → c = ' ' := by
    intro c hc gap
    by_contra other
    rw [isGap_of_isShown (shown c hc) other (solid c hc)] at gap
    cases gap
  refine ⟨blanks, ?_, fun c hc same => last (same ▸ hc), marksInside_space start inside⟩
  intro c hc
  cases gap : isGap c with
  | false => rfl
  | true =>
    obtain rfl := blanks c (List.mem_of_mem_head? hc) gap
    exact absurd hc first

/-- **Plain values are read back.** -/
theorem isWritten_plain (column : Nat) {cs : List Char} (nonempty : cs ≠ [])
    (shown : ∀ c ∈ cs, isShown c = true) (fits : fitsPlain cs = true) :
    IsWritten column (cs ++ ['\n']) (String.ofList cs) .plain := by
  have onLine := onLine_of_fitsPlain shown fits
  obtain ⟨c, rest, rfl⟩ := List.exists_cons_of_ne_nil nonempty
  have start : marksStart (c :: rest) = false := by
    simp only [fitsPlain, Bool.not_eq_true', Bool.or_eq_false_iff] at fits
    exact fits.1.1.1.1.1
  obtain ⟨indicator, mark⟩ := of_marksStart start
  have solid : isGap c = false := onLine.first c rfl
  refine ⟨by simp, ?_, ?_, ?_⟩
  · rintro _ ⟨⟩
    refine ⟨solid, ?_, ?_⟩
    · rintro rfl
      cases indicator
    · rintro rfl
      cases shown _ List.mem_cons_self
  · intro d hd
    rcases List.mem_append.mp hd with hd | hd
    · exact shown d hd
    · rw [List.mem_singleton.mp hd]
      decide
  · intro after next line behind inside ts outer
    have token : Scan.readToken ⟨⟨(c :: rest) ++ ['\n'] ++ after, line, behind⟩, ts.toArray,
        column :: outer, [none], false⟩ = Scan.readPlain ⟨⟨(c :: rest) ++ ['\n'] ++ after, line,
          behind⟩, ts.toArray, column :: outer, [none], false⟩ := by
      refine Scan.readToken_plain rfl (atDocument_of_column (Nat.zero_lt_of_lt inside)) rfl indicator
        solid fun h => ?_
      obtain ⟨d, more, rfl, solid⟩ := mark h
      exact solid
    have plain := readPlain_line next.follows onLine nonempty line inside (Nat.zero_lt_of_lt inside)
    rw [List.append_assoc] at token ⊢
    exact ⟨_, token.trans (readPlain_value ts outer plain), .ofLine next (line + 1) _ _⟩

/-! ## Strings -/

/-- What starts with a mark that is shown starts a value. -/
theorem starts_cons {c : Char} (plain : isGap c = false ∧ c ≠ '#' ∧ c ≠ '\ufeff') (cs : List Char) :
    Starts (c :: cs) := by
  rintro _ ⟨⟩
  exact plain

theorem forall_mem_append_lineEnd {cs : List Char} (shown : ∀ c ∈ cs, isShown c = true) :
    ∀ c ∈ cs ++ ['\n'], isShown c = true :=
  List.forall_mem_append.mpr ⟨shown, List.forall_mem_singleton.mpr rfl⟩

theorem isWritten_doubleQuoted (column : Nat) (cs : List Char) :
    IsWritten column (doubleQuoted cs ++ ['\n']) (String.ofList cs) .quoted := by
  refine ⟨List.cons_ne_nil _ _, starts_cons (by decide) _,
    forall_mem_append_lineEnd (isShown_doubleQuoted cs), ?_⟩
  intro after next line behind inside ts outer
  obtain ⟨behind', read⟩ := readQuoted_doubleQuoted cs after line behind
  rw [List.append_assoc]
  exact ⟨_, readToken_quoted ts outer (Nat.zero_lt_of_lt inside) (.inl rfl) read,
    .lineEnd next line behind' _ _ false⟩

theorem isWritten_singleQuoted (column : Nat) {indent : Nat} (positive : 0 < indent)
    {cs : List Char} (h : InQuotes cs) :
    IsWritten column (singleQuoted indent cs ++ ['\n']) (String.ofList cs) .quoted := by
  refine ⟨List.cons_ne_nil _ _, starts_cons (by decide) _,
    forall_mem_append_lineEnd (isShown_singleQuoted h.shown indent), ?_⟩
  intro after next line behind inside ts outer
  obtain ⟨line', behind', read⟩ := readQuoted_singleQuoted positive h after line behind
  rw [List.append_assoc]
  exact ⟨_, readToken_quoted ts outer (Nat.zero_lt_of_lt inside) (.inr rfl) read,
    .lineEnd next line' behind' _ _ false⟩

theorem isShown_chompMark (cs : List Char) : ∀ c ∈ chompMark cs, isShown c = true := by
  have three : chompMark cs = ['-'] ∨ chompMark cs = ['+'] ∨ chompMark cs = [] := by
    unfold chompMark
    split
    · split
      · exact .inl rfl
      · split
        · exact .inr (.inl rfl)
        · exact .inr (.inr rfl)
    · split
      · exact .inr (.inl rfl)
      · exact .inl rfl
    · exact .inl rfl
  rcases three with mark | mark | mark <;> rw [mark] <;> exact List.all_eq_true.mp (by decide)

theorem isShown_hint (cs : List Char) : ∀ c ∈ hint cs, isShown c = true := by
  unfold hint
  split <;> exact List.all_eq_true.mp (by decide)

theorem isWritten_block (column : Nat) {cs : List Char} (shown : ∀ c ∈ cs, isShown c = true)
    (nonempty : cs ≠ []) :
    IsWritten column (block (column + 2) cs ++ lineEnd (block (column + 2) cs)) (String.ofList cs)
      .literal := by
  have lines : ∀ c ∈ cs ++ lineEnd cs, isShown c = true := by
    unfold lineEnd
    split
    · rwa [List.append_nil]
    · exact forall_mem_append_lineEnd shown
  rw [block_lineEnd (column + 2) nonempty]
  refine ⟨List.cons_ne_nil _ _, starts_cons (by decide) _, ?_, ?_⟩
  · refine List.forall_mem_cons.mpr ⟨by decide, List.forall_mem_append.mpr ⟨?_, ?_⟩⟩
    · exact List.forall_mem_append.mpr ⟨isShown_hint cs, isShown_chompMark cs⟩
    · exact List.forall_mem_cons.mpr ⟨by decide, isShown_indented lines _ _⟩
  · intro after next line behind inside ts outer
    obtain ⟨line', read⟩ := readBlock_block (Nat.succ_pos column) next.follows shown nonempty line
      (behind + 1)
    rw [List.cons_append, List.append_assoc, List.cons_append]
    exact ⟨_, readToken_block ts outer (Nat.zero_lt_of_lt inside) read, .ofLine next line' _ _⟩

theorem lineEnd_doubleQuoted (cs : List Char) : lineEnd (doubleQuoted cs) = ['\n'] :=
  lineEnd_line (by simp [doubleQuoted, List.getLast?_cons, isBreak])

theorem lineEnd_singleQuoted (indent : Nat) (cs : List Char) :
    lineEnd (singleQuoted indent cs) = ['\n'] :=
  lineEnd_line (by simp [singleQuoted, List.getLast?_cons, getLast?_indented, isBreak])

/-- What needs no escapes can stand between single quotes, if no line feed is in it. -/
theorem inQuotes_of_needsEscapes {cs : List Char} (feeds : cs.contains '\n' = false)
    (h : needsEscapes cs = false) : InQuotes cs := by
  simp only [needsEscapes, Bool.or_eq_false_iff, List.any_eq_false, Bool.not_eq_true',
    Bool.not_eq_false] at h
  obtain ⟨⟨shown, after⟩, before⟩ := h
  refine ⟨shown, ?_, isChain_apart before after⟩
  rintro c hc rfl
  rw [List.contains_iff_mem.mpr hc] at feeds
  cases feeds

/-- The style a string is written in. -/
def stringStyle (s : String) : Style :=
  let cs := s.toList
  if cs.contains '\n' then (if fitsBlock cs then .literal else .quoted)
  else if needsEscapes cs then .quoted
  else if readsOtherwise s || !fitsPlain cs then .quoted
  else .plain

/-- **A string is read back as it was written.** -/
theorem isWritten_stringText (column : Nat) (s : String) :
    IsWritten column (stringText (column + 2) s).toList s (stringStyle s) := by
  obtain ⟨cs, rfl⟩ : ∃ cs, s = String.ofList cs := ⟨s.toList, String.ofList_toList.symm⟩
  rw [stringText, stringStyle]
  simp only [String.toList_ofList]
  by_cases feeds : cs.contains '\n' = true
  · simp only [feeds, if_true]
    by_cases fits : fitsBlock cs = true
    · have shown : ∀ c ∈ cs, isShown c = true := by
        simp only [fitsBlock, Bool.and_eq_true, List.all_eq_true] at fits
        exact fits.1.1
      have some' : cs ≠ [] := by
        rintro rfl
        cases feeds
      simp only [fits, if_true]
      exact isWritten_block column shown some'
    · simp only [fits, Bool.false_eq_true, if_false, lineEnd_doubleQuoted]
      exact isWritten_doubleQuoted column cs
  · rw [Bool.not_eq_true] at feeds
    simp only [feeds, Bool.false_eq_true, if_false]
    cases escapes : needsEscapes cs with
    | true =>
      simp only [if_true, lineEnd_doubleQuoted]
      exact isWritten_doubleQuoted column cs
    | false =>
      have quotes := inQuotes_of_needsEscapes feeds escapes
      simp only [Bool.false_eq_true, if_false]
      by_cases marked : (readsOtherwise (String.ofList cs) || !fitsPlain cs) = true
      · simp only [marked, if_true, lineEnd_singleQuoted]
        exact isWritten_singleQuoted column (Nat.succ_pos _) quotes
      · simp only [Bool.or_eq_true, Bool.not_eq_true', not_or, Bool.not_eq_true,
          Bool.not_eq_false] at marked
        obtain ⟨itself, fits⟩ := marked
        have some' : cs ≠ [] := by
          rintro rfl
          cases itself
        have solid : ∀ c ∈ cs, isBreak c = false := by
          simp only [fitsPlain, Bool.not_eq_true', Bool.or_eq_false_iff, List.any_eq_false,
            Bool.not_eq_true] at fits
          exact fits.1.1.2
        simp only [itself, fits, Bool.not_true, Bool.or_self, Bool.false_eq_true, if_false,
          lineEnd_line fun c hc => solid c (List.mem_of_getLast? hc)]
        exact isWritten_plain column some' quotes.shown fits

/-- What is written plain would not read as something else. -/
theorem readsOtherwise_of_plain {s : String} (plain : stringStyle s = .plain) :
    readsOtherwise s = false := by
  cases itself : readsOtherwise s with
  | false => rfl
  | true =>
    simp only [stringStyle, itself, Bool.true_or, if_true] at plain
    split at plain <;> split at plain <;> cases plain

/-! ## Words and numbers -/

theorem marksInside_of_notMem {cs : List Char} (h : ∀ c ∈ cs, c ∉ marks) :
    marksInside cs = false := by
  induction cs with
  | nil => rfl
  | cons a cs ih =>
    cases cs with
    | nil => rfl
    | cons c cs =>
      have rest := ih (List.forall_mem_cons.mp h).2
      have other := h c (by simp)
      simp only [marks, List.mem_cons, not_or] at other
      simp [marksInside_cons, other, rest]

/-- **Words are read back.** -/
theorem isWritten_word (column : Nat) {cs : List Char} (h : IsWord cs) :
    IsWritten column (cs ++ ['\n']) (String.ofList cs) .plain := by
  have inside := marksInside_of_notMem fun c hc => (h.2 c hc).2
  have solid : cs.any isBreak = false := by
    rw [List.any_eq_false]
    intro c hc
    simp [(isGap_eq_false.mp (h.isGap hc)).2]
  have last : cs.getLast? ≠ some ' ' := fun same =>
    h.ne (List.mem_of_getLast? same) (by decide) rfl
  refine isWritten_plain column h.1 h.isShown ?_
  obtain ⟨c, rest, rfl⟩ := List.exists_cons_of_ne_nil h.1
  obtain ⟨indicator, mark⟩ := h.unmarked List.mem_cons_self
  have first : c ≠ ' ' := h.ne List.mem_cons_self (by decide)
  have start : marksStart (c :: rest) = false := by
    rw [marksStart.eq_def]
    simp_all
  have document : marksDocument (c :: rest) = false := by
    have hyphen := h.ne List.mem_cons_self (d := '-') (by decide)
    have point := h.ne List.mem_cons_self (d := '.') (by decide)
    simp [marksDocument, List.isPrefixOf, hyphen.symm, point.symm]
  simp [fitsPlain, start, inside, document, solid, first, last]

theorem isDigit_iff (c : Char) : c.isDigit = true ↔ 48 ≤ c.toNat ∧ c.toNat ≤ 57 :=
  Char.isDigit_iff_toNat

theorem isWord_of_isDigit {cs : List Char} (some' : cs ≠ []) (digits : ∀ c ∈ cs, c.isDigit = true) :
    IsWord cs := by
  have other : marks.any Char.isDigit = false := by decide
  refine ⟨some', fun c hc => ⟨?_, fun mark => ?_⟩⟩
  · have range := (isDigit_iff c).mp (digits c hc)
    simp only [isShown, Bool.or_eq_true, Bool.and_eq_true, decide_eq_true_eq]
    omega
  · exact List.any_eq_false.mp other c mark (digits c hc)

/-- The digits of a number do not start with a zero unless that is the number. -/
theorem head?_toDigits {n : Nat} (positive : 0 < n) : (Nat.toDigits 10 n).head? ≠ some '0' := by
  induction n using Nat.strongRecOn with
  | _ n ih =>
    by_cases small : n < 10
    · have digit : ∀ n < 10, 0 < n → some n.digitChar ≠ some '0' := by decide
      rw [Nat.toDigits_of_lt_base small]
      exact digit n small positive
    · rw [Nat.toDigits_of_base_le (by decide) (Nat.le_of_not_lt small),
        List.head?_append_of_ne_nil _ Nat.toDigits_ne_nil]
      exact ih (n / 10) (by omega) (by omega)

/-- The digits of a number as values. -/
theorem mapM_digits {cs : List Char} (digits : ∀ c ∈ cs, c.isDigit = true) :
    (cs.mapM fun c => (Number.hexValue? c).bind fun d => if d < 10 then some d else none) =
      some (cs.map fun c => c.toNat - '0'.toNat) := by
  induction cs with
  | nil => rfl
  | cons c cs ih =>
    obtain ⟨digit, others⟩ := List.forall_mem_cons.mp digits
    have range := (isDigit_iff c).mp digit
    have small : c.toNat - '0'.toNat < 10 := by
      show c.toNat - 48 < 10
      omega
    rw [List.mapM_cons, ih others, Number.hexValue?, if_pos digit, Option.bind_some, if_pos small]
    rfl

theorem ofDigits?_toDigits (n : Nat) : ofDigits? 10 (Nat.toDigits 10 n) = some n := by
  have digits : ∀ c ∈ Nat.toDigits 10 n, c.isDigit = true := fun c hc =>
    Nat.isDigit_of_mem_toDigits (by decide) (by decide) hc
  have value : (Nat.toDigits 10 n).foldl (fun m c => 10 * m + (c.toNat - '0'.toNat)) 0 = n := by
    rw [← Nat.ofDigitChars_eq_foldl, Nat.ofDigitChars_ten_toDigits]
  simp only [ofDigits?, List.isEmpty_eq_false_iff.mpr Nat.toDigits_ne_nil, mapM_digits digits,
    Bool.false_eq_true, if_false, Option.map_some, List.foldl_map, value]

/-- What is no digit is not among the digits of a number. -/
theorem notMem_toDigits {c : Char} (other : c.isDigit = false) (n : Nat) :
    c ∉ Nat.toDigits 10 n := by
  intro mem
  rw [Nat.isDigit_of_mem_toDigits (by decide) (by decide) mem] at other
  cases other

theorem hasLeadingZero_toString (n : Nat) : hasLeadingZero (toString n) = false := by
  have same : (toString n).toList = Nat.toDigits 10 n := String.toList_ofList
  rcases Nat.eq_zero_or_pos n with rfl | positive
  · decide
  · have head := head?_toDigits positive
    rw [hasLeadingZero, same]
    split
    · rename_i written
      exact absurd (written ▸ List.mem_cons_self) (notMem_toDigits (c := '-') rfl n)
    · rename_i written
      exact absurd (written ▸ List.mem_cons_self) (notMem_toDigits (c := '+') rfl n)
    · simp [head]

/-- **A number is read off its digits.** -/
theorem natural?_toString (n : Nat) : natural? (toString n) = some n := by
  have same : (toString n).toList = Nat.toDigits 10 n := String.toList_ofList
  have zero := hasLeadingZero_toString n
  have read := ofDigits?_toDigits n
  rw [natural?, same]
  have plus (rest : List Char) : Nat.toDigits 10 n ≠ '+' :: rest := fun written =>
    notMem_toDigits (c := '+') rfl n (by simp [written])
  have second {c : Char} (other : c.isDigit = false) (rest : List Char) :
      Nat.toDigits 10 n ≠ '0' :: c :: rest := fun written =>
    notMem_toDigits other n (by simp [written])
  split <;> rename_i written <;> split at written
  · exact absurd ‹_› (plus _)
  · exact absurd written (second rfl _)
  · exact absurd ‹_› (plus _)
  · exact absurd written (second rfl _)
  · exact absurd ‹_› (plus _)
  · exact absurd written (second rfl _)
  · exact absurd ‹_› (plus _)
  · rw [zero]
    exact read

/-- A number is written as a word. -/
theorem isWord_toString (n : Nat) : IsWord (toString n).toList := by
  have same : (toString n).toList = Nat.toDigits 10 n := String.toList_ofList
  rw [same]
  exact isWord_of_isDigit Nat.toDigits_ne_nil fun c hc =>
    Nat.isDigit_of_mem_toDigits (by decide) (by decide) hc

end FilterStore.Yaml
