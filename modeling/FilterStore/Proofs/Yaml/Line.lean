import FilterStore.Proofs.Yaml.Block
import FilterStore.Yaml.Token
import Mathlib.Data.List.TakeWhile

/-!
# Lines of a document

The scanner goes through a document of mappings line by line.  At the start of a line it stands right
of some open mappings; those that are deeper than the line are closed, and the first entry of a
section opens one.  What counts is how many are open *once the line is known*: `Scan.Standing` holds
the tokens as they will be then.

A line starts with the name of an entry.  A name is known as a key only by the colon behind it, so it
takes two steps, and the tokens that make it one are put in front of it.
-/

namespace FilterStore.Yaml

/-! ## The start of a line -/

/-- A text starts with a token: neither with a gap nor with a comment, nor with a byte order mark. -/
def Starts (cs : List Char) : Prop := ∀ c ∈ cs.head?, isGap c = false ∧ c ≠ '#' ∧ c ≠ '\ufeff'

/-- Lines the first of which is indented by less than a number of columns, or nothing. -/
def Next (least : Nat) (cs : List Char) : Prop :=
  ∃ n rest, n < least ∧ Starts rest ∧ cs = spaces n ++ rest

theorem Starts.solid {cs : List Char} (h : Starts cs) : Solid cs := fun c hc => (h c hc).1

theorem Next.follows {least : Nat} {cs : List Char} (h : Next least cs) : Follows least cs := by
  obtain ⟨n, rest, less, starts, rfl⟩ := h
  exact ⟨n, rest, less, starts.solid, rfl⟩

theorem Next.mono {least more : Nat} (le : least ≤ more) {cs : List Char} (h : Next least cs) :
    Next more cs := by
  obtain ⟨n, rest, less, starts, rfl⟩ := h
  exact ⟨n, rest, Nat.lt_of_lt_of_le less le, starts, rfl⟩

theorem Next.column_lt {least : Nat} {cs : List Char} (h : Next least cs) (line : Nat) :
    (Place.ofLine line cs).column < least := by
  obtain ⟨n, rest, less, starts, rfl⟩ := h
  rwa [Place.ofLine_spaces line n starts.solid]

/-- A name starts a line. -/
theorem IsWord.starts {cs : List Char} (name : IsWord cs) (more : List Char) :
    Starts (cs ++ more) := by
  obtain ⟨c, cs, rfl⟩ := List.exists_cons_of_ne_nil name.1
  rintro _ ⟨⟩
  exact ⟨name.isGap List.mem_cons_self, name.ne List.mem_cons_self (by decide),
    name.ne List.mem_cons_self (by decide)⟩

namespace Scan

/-- Spaces in front of a token are skipped. -/
theorem skipSilent_spaces {n : Nat} {cs : List Char} (starts : Starts cs) (fuel line column : Nat)
    (tokens : Array Token) (indents : List Nat) (keys : List (Option SimpleKey)) (allowed : Bool) :
    skipSilent (fuel + 1) ⟨⟨spaces n ++ cs, line, column⟩, tokens, indents, keys, allowed⟩ =
      ⟨⟨cs, line, column + n⟩, tokens, indents, keys, allowed⟩ := by
  have bom : ((spaces n ++ cs).head? == some '\ufeff') = false := by
    cases n with
    | zero =>
      cases cs with
      | nil => rfl
      | cons c cs => simpa [spaces] using (starts c rfl).2.2
    | succ n => rfl
  have taken (tabs : Bool) :
      ((spaces n ++ cs).takeWhile fun c => c == ' ' || (tabs && c == '\t')) = spaces n := by
    rw [List.takeWhile_append_of_pos fun c hc => by simp [(List.mem_replicate.mp hc).2]]
    cases cs with
    | nil => simp
    | cons c cs =>
      have solid := (starts c rfl).1
      simp only [isGap, isSpace, Bool.or_eq_false_iff] at solid
      simp [solid]
  have skipped (tabs : Bool) : Place.skipWhile (fun c => c == ' ' || (tabs && c == '\t'))
      ⟨spaces n ++ cs, line, column⟩ = ⟨cs, line, column + n⟩ := by
    rw [Place.skipWhile, taken, skip_append, length_spaces]
  have comment : (cs.head? == some '#') = false := by
    cases cs with
    | nil => rfl
    | cons c cs => simpa using (starts c rfl).2.1
  have ends : cs.head?.any isBreak = false := by
    cases cs with
    | nil => rfl
    | cons c cs =>
      exact (isGap_eq_false.mp (starts c rfl).1).2
  rw [skipSilent]
  simp only [bom, Bool.and_false, Bool.false_eq_true, if_false, skipped, comment, goTo, ends]

/-- The end of a line in front of a token is skipped. -/
theorem skipSilent_lineEnd {n : Nat} {cs : List Char} (starts : Starts cs) (fuel line column : Nat)
    (tokens : Array Token) (indents : List Nat) (allowed : Bool) :
    skipSilent (fuel + 2)
        ⟨⟨'\n' :: (spaces n ++ cs), line, column⟩, tokens, indents, [none], allowed⟩ =
      ⟨⟨cs, line + 1, n⟩, tokens, indents, [none], true⟩ := by
  have feed : Place.next ⟨'\n' :: (spaces n ++ cs), line, column⟩ = ⟨spaces n ++ cs, line + 1, 0⟩ := rfl
  have stay (tabs : Bool) : Place.skipWhile (fun c => c == ' ' || (tabs && c == '\t'))
      ⟨'\n' :: (spaces n ++ cs), line, column⟩ = ⟨'\n' :: (spaces n ++ cs), line, column⟩ := by
    simp [Place.skipWhile, Place.skip]
  have next := skipSilent_spaces (n := n) starts fuel (line + 1) 0 tokens indents [none] true
  rw [Nat.zero_add] at next
  rw [skipSilent]
  simp [stay, goTo, allowKey, inFlow, isBreak, feed, next]

/-! ## Tokens -/

/-- What is marked by nothing is a plain scalar. -/
theorem readToken_plain {s : Scan} {c : Char} {rest : List Char} (place : s.place.rest = c :: rest)
    (document : s.place.atDocument = false) (block : s.inFlow = false)
    (indicator : isIndicator c = false) (solid : isGap c = false)
    (mark : (c == '-' || c == '?' || c == ':') = true → atGap rest = false) :
    s.readToken = s.readPlain := by
  have whole := indicator
  have space : isSpace c = false := (isGap_eq_false.mp solid).1
  rw [Place.atDocument, Bool.or_eq_false_iff] at document
  simp only [isIndicator, isFlowMark, Bool.or_eq_false_iff] at indicator
  have hyphen : (c == '-' && atGap rest) = false := by
    cases same : c == '-' <;> simp_all
  have question : (c == '?' && atGap rest) = false := by
    cases same : c == '?' <;> simp_all
  have colon : (c == ':' && atGap rest) = false := by
    cases same : c == ':' <;> simp_all
  simp only [readToken, place, document, block, indicator, space, hyphen, question, colon, whole,
    Bool.false_and, Bool.false_or, Bool.or_self, Bool.false_eq_true, if_false]

/-- A colon in front of a gap is the one of a value. -/
theorem readToken_colon {s : Scan} {rest : List Char} (place : s.place.rest = ':' :: rest)
    (gap : atGap rest = true) : s.readToken = s.readValue := by
  have start : s.place.atMark '-' = false ∧ s.place.atMark '.' = false := by
    simp [Place.atMark, place, List.isPrefixOf]
  simp [readToken, place, start, gap]

/-- The tokens that close some mappings. -/
def closing (indents : List Nat) : List Token := indents.map fun _ => .blockEnd

/-- The mappings that are deeper than a column are closed in front of what stands there. -/
theorem close_column {column : Nat} {pending indents : List Nat}
    (deeper : ∀ i ∈ pending, column < i) (shallow : ∀ i ∈ indents.head?, i ≤ column) (p : Place)
    (ts : List Token) (key? : Option SimpleKey) (allowed : Bool) :
    close (some column) ⟨p, ts.toArray, pending ++ indents, [key?], allowed⟩ =
      ⟨p, (ts ++ closing pending).toArray, indents, [key?], allowed⟩ := by
  have closed : (pending ++ indents).takeWhile (fun indent => !decide (indent ≤ column)) =
      pending := by
    rw [List.takeWhile_append_of_pos fun i hi => by simpa using deeper i hi]
    cases indents with
    | nil => simp
    | cons i indents => simp [shallow i rfl]
  simp only [close, inFlow, Option.any_some, closed, closing, List.length_singleton,
    Nat.lt_irrefl, decide_false, Bool.false_eq_true, if_false, List.drop_left,
    List.append_toArray]

theorem close_stays {column : Nat} {indents : List Nat} (shallow : ∀ i ∈ indents.head?, i ≤ column)
    (p : Place) (ts : List Token) (key? : Option SimpleKey) (allowed : Bool) :
    close (some column) ⟨p, ts.toArray, indents, [key?], allowed⟩ =
      ⟨p, ts.toArray, indents, [key?], allowed⟩ := by
  have none : ∀ i ∈ ([] : List Nat), column < i := nofun
  have closed := close_column none shallow p ts key? allowed
  rwa [closing, List.map_nil, List.append_nil, List.nil_append] at closed

/-- At the end all mappings are closed. -/
theorem close_none (indents : List Nat) (p : Place) (ts : List Token) (allowed : Bool) :
    close none ⟨p, ts.toArray, indents, [none], allowed⟩ =
      ⟨p, (ts ++ closing indents).toArray, [], [none], allowed⟩ := by
  have closed : indents.takeWhile (fun _ => true) = indents :=
    List.takeWhile_eq_self_iff.mpr fun _ _ => rfl
  simp only [close, inFlow, Option.any_none, Bool.not_false, closed, closing, List.length_singleton,
    Nat.lt_irrefl, decide_false, Bool.false_eq_true, if_false, List.drop_length,
    List.append_toArray]

/-- Whether the entry at a column is the first one of a mapping. -/
def opens (column : Nat) (indents : List Nat) : Bool :=
  !indents.head?.any fun indent => decide (column ≤ indent)

/-- The tokens in front of the key at a column. -/
def opening (column : Nat) (indents : List Nat) : List Token :=
  if opens column indents then [.blockMapping] else []

/-- The open mappings at a key. -/
def opened (column : Nat) (indents : List Nat) : List Nat :=
  if opens column indents then column :: indents else indents

/-- Once the mapping at a column is open, it is the innermost one. -/
theorem exists_opened {column : Nat} {indents : List Nat}
    (shallow : ∀ i ∈ indents.head?, i ≤ column) : ∃ outer, opened column indents = column :: outer := by
  cases first : opens column indents with
  | true => exact ⟨indents, by rw [opened, if_pos first]⟩
  | false =>
    cases indents with
    | nil => cases first
    | cons i outer =>
      have deep : column ≤ i := by simpa [opens] using first
      have same : i = column := Nat.le_antisymm (shallow i rfl) deep
      exact ⟨outer, by rw [opened, first, same]; rfl⟩

theorem opens_self (column : Nat) (outer : List Nat) : opens column (column :: outer) = false := by
  simp [opens]

@[simp] theorem opening_self (column : Nat) (outer : List Nat) :
    opening column (column :: outer) = [] := by
  simp [opening, opens_self]

@[simp] theorem opened_self (column : Nat) (outer : List Nat) :
    opened column (column :: outer) = column :: outer := by
  simp [opened, opens_self]

theorem opening_deeper {column deeper : Nat} (less : column < deeper) (outer : List Nat) :
    opening deeper (column :: outer) = [.blockMapping] := by
  simp [opening, opens, less]

theorem opened_deeper {column deeper : Nat} (less : column < deeper) (outer : List Nat) :
    opened deeper (column :: outer) = deeper :: column :: outer := by
  simp [opened, opens, less]

/-- A name may turn out to be a key. -/
theorem readPlain_key {cs : List Char} (name : IsWord cs) {more : List Char}
    (gap : atGap more = true) (line column : Nat) (ts : List Token) (indents : List Nat) :
    ∃ required, readPlain ⟨⟨cs ++ ':' :: more, line, column⟩, ts.toArray, indents, [none], true⟩ =
      some ⟨⟨':' :: more, line, column + cs.length⟩,
        (ts ++ [Token.scalar (String.ofList cs) .plain]).toArray, indents,
        [some ⟨ts.length, line, column, required⟩], false⟩ := by
  refine ⟨indents.head? == some column, ?_⟩
  simp [readPlain, saveKey, dropKey, inFlow, Yaml.readPlain_key _ name gap, push, goTo, allowKey]

/-- The colon behind a name makes it a key. -/
theorem readValue_key (t : Token) (line column behind : Nat) (more : List Char) (ts : List Token)
    (indents : List Nat) (required : Bool) :
    readValue ⟨⟨':' :: more, line, behind⟩, (ts ++ [t]).toArray, indents,
        [some ⟨ts.length, line, column, required⟩], false⟩ =
      some ⟨⟨more, line, behind + 1⟩, (ts ++ opening column indents ++ [.key, t, .value]).toArray,
        opened column indents, [none], false⟩ := by
  cases known : indents.head?.any fun indent => decide (column ≤ indent) <;>
    simp [readValue, insert, openBlock, inFlow, known, opening, opened, opens, take, push, goTo,
      allowKey, Place.skip]

/-! ## Lines of a document -/

/-- The scan comes to a line.  The mappings that the line closes are not counted among the open ones
any more, and their ends are among the tokens. -/
def Standing (s : Scan) (text : List Char) (ts : List Token) (indents : List Nat) : Prop :=
  ∃ line before pending, s.skipSilent s.place.fuel =
      ⟨.ofLine line text, List.toArray before, pending ++ indents, [none], true⟩ ∧
    ts = before ++ closing pending ∧ ∀ i ∈ pending, (Place.ofLine 0 text).column < i

theorem Standing.of_skipSilent {s : Scan} (line : Nat) {text : List Char} {ts : List Token}
    {indents : List Nat}
    (h : s.skipSilent s.place.fuel = ⟨.ofLine line text, ts.toArray, indents, [none], true⟩) :
    s.Standing text ts indents :=
  ⟨line, ts, [], h, (List.append_nil ts).symm, nofun⟩

/-- The scan stands at the first character of a line. -/
theorem Standing.ofLine {least : Nat} {text : List Char} (next : Next least text) (line : Nat)
    (ts : List Token) (indents : List Nat) :
    Standing ⟨.ofLine line text, ts.toArray, indents, [none], true⟩ text ts indents := by
  obtain ⟨n, rest, -, starts, rfl⟩ := next
  refine of_skipSilent line ?_
  rw [Place.ofLine_spaces line n starts.solid]
  exact skipSilent_spaces (n := 0) starts _ line n ts.toArray indents [none] true

/-- The scan stands at the end of the line before. -/
theorem Standing.lineEnd {least : Nat} {text : List Char} (next : Next least text)
    (line column : Nat) (ts : List Token) (indents : List Nat) (allowed : Bool) :
    Standing ⟨⟨'\n' :: text, line, column⟩, ts.toArray, indents, [none], allowed⟩ text ts
      indents := by
  obtain ⟨n, rest, -, starts, rfl⟩ := next
  refine of_skipSilent (line + 1) ?_
  rw [Place.ofLine_spaces (line + 1) n starts.solid]
  exact skipSilent_lineEnd starts _ line column ts.toArray indents allowed

/-- A line that stands left of the innermost mapping closes it. -/
theorem Standing.close {s : Scan} {text : List Char} {ts : List Token} {i : Nat}
    {indents : List Nat} (h : s.Standing text ts (i :: indents))
    (left : (Place.ofLine 0 text).column < i) : s.Standing text (ts ++ [.blockEnd]) indents := by
  obtain ⟨line, before, pending, skipped, rfl, deeper⟩ := h
  refine ⟨line, before, pending ++ [i], ?_, ?_, ?_⟩
  · rw [skipped, List.append_assoc]
    rfl
  · simp [closing]
  · intro j hj
    rcases List.mem_append.mp hj with hj | hj
    · exact deeper j hj
    · rw [List.mem_singleton.mp hj]
      exact left

theorem dropStaleKeys_none (p : Place) (tokens : Array Token) (indents : List Nat) (allowed : Bool) :
    dropStaleKeys ⟨p, tokens, indents, [none], allowed⟩ =
      some ⟨p, tokens, indents, [none], allowed⟩ := rfl

/-- At the end of a text the open mappings are closed. -/
theorem Standing.readAll_end {s : Scan} {ts : List Token} {indents : List Nat}
    (h : s.Standing [] ts indents) (n : Nat) :
    readAll (n + 1) s = some (ts ++ closing indents) := by
  obtain ⟨line, before, pending, skipped, rfl, -⟩ := h
  have place : Place.ofLine line [] = ⟨[], line, 0⟩ := rfl
  rw [readAll, skipped]
  simp [dropStaleKeys_none, close_none, place, dropKey, closing]

/-- One step of the scan. -/
theorem readAll_step {s t u : Scan} (skipped : s.skipSilent s.place.fuel = t)
    (keys : t.dropStaleKeys = some t) (some' : t.place.rest ≠ [])
    (read : (t.close (some t.place.column)).readToken = some u) (n : Nat) :
    readAll (n + 1) s = readAll n u := by
  rw [readAll, skipped]
  simp [keys, some', read]

/-- The tokens of a name. -/
def keyTokens (cs : List Char) : List Token := [.key, .scalar (String.ofList cs) .plain, .value]

/-- The colon behind a name that stands on the same line. -/
theorem readAll_colon (t : Token) {column length : Nat} (short : length ≤ 1024) {more : List Char}
    (gap : atGap more = true) {indents : List Nat} (shallow : ∀ i ∈ indents.head?, i ≤ column)
    (line : Nat) (ts : List Token) (required : Bool) (n : Nat) :
    readAll (n + 1) ⟨⟨':' :: more, line, column + length⟩, (ts ++ [t]).toArray, indents,
        [some ⟨ts.length, line, column, required⟩], false⟩ =
      readAll n ⟨⟨more, line, column + length + 1⟩,
        (ts ++ opening column indents ++ [.key, t, .value]).toArray, opened column indents, [none],
        false⟩ := by
  have colon : Starts (':' :: more) := by
    rintro _ ⟨⟩
    decide
  have still := skipSilent_spaces (n := 0) colon (':' :: more).length line (column + length)
    (ts ++ [t]).toArray indents [some ⟨ts.length, line, column, required⟩] false
  have fresh : dropStaleKeys ⟨⟨':' :: more, line, column + length⟩, (ts ++ [t]).toArray, indents,
      [some ⟨ts.length, line, column, required⟩], false⟩ =
        some ⟨⟨':' :: more, line, column + length⟩, (ts ++ [t]).toArray, indents,
          [some ⟨ts.length, line, column, required⟩], false⟩ := by
    simp [dropStaleKeys, short]
  have within : ∀ i ∈ indents.head?, i ≤ column + length :=
    fun i hi => (shallow i hi).trans (Nat.le_add_right _ _)
  refine readAll_step still fresh (List.cons_ne_nil _ _) ?_ n
  refine (congrArg readToken (close_stays within _ _ _ _)).trans ?_
  rw [readToken_colon rfl gap]
  exact readValue_key t line column (column + length) more ts indents required

/-- **The name of an entry.**  It closes what is deeper and opens a mapping if it is the first name
there. -/
theorem Standing.readAll_name {s : Scan} {column : Nat} {cs more : List Char} {ts : List Token}
    {indents : List Nat} (h : s.Standing (spaces column ++ (cs ++ ':' :: more)) ts indents)
    (name : IsWord cs) (short : cs.length ≤ 1024) (gap : atGap more = true)
    (shallow : ∀ i ∈ indents.head?, i ≤ column) :
    ∃ line, ∀ n, readAll (n + 2) s = readAll n ⟨⟨more, line, column + cs.length + 1⟩,
      (ts ++ opening column indents ++ keyTokens cs).toArray, opened column indents, [none],
      false⟩ := by
  obtain ⟨line, before, pending, skipped, rfl, deeper⟩ := h
  have starts := name.starts (':' :: more)
  rw [Place.ofLine_spaces _ _ starts.solid] at skipped deeper
  obtain ⟨required, key⟩ := readPlain_key name gap line column (before ++ closing pending) indents
  have read : readToken ⟨⟨cs ++ ':' :: more, line, column⟩, (before ++ closing pending).toArray,
      indents, [none], true⟩ = some ⟨⟨':' :: more, line, column + cs.length⟩,
        (before ++ closing pending ++ [Token.scalar (String.ofList cs) .plain]).toArray, indents,
        [some ⟨(before ++ closing pending).length, line, column, required⟩], false⟩ := by
    obtain ⟨c, rest, rfl⟩ := List.exists_cons_of_ne_nil name.1
    obtain ⟨indicator, mark⟩ := name.unmarked List.mem_cons_self
    rw [← key]
    refine readToken_plain rfl (name.atDocument _ line column) rfl indicator
      (name.isGap List.mem_cons_self) fun h => ?_
    rw [mark] at h
    cases h
  refine ⟨line, fun n => ?_⟩
  rw [readAll_step skipped (dropStaleKeys_none _ _ _ _) (by simp)
    ((congrArg readToken (close_column deeper shallow _ _ _ _)).trans read) (n + 1)]
  exact readAll_colon _ short gap shallow line _ required n

end Scan

end FilterStore.Yaml
