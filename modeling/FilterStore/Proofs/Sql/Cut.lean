import FilterStore.Sql.Token
import FilterStore.Text.Quoted
import Mathlib.Data.List.TakeWhile

/-!
# Cutting a text into tokens

What a text is cut into does not depend on where it starts, or on the blanks that were read before.
So it is said of a text which tokens it *spells*, each by its kind and its own text, and a text is
put together from the left: a word spells itself in front of what cannot go on with it, and so do
the symbols, and a name between quotes.  Whatever the name holds, what follows its closing quote
does not leak into it, unless it starts with a quote as well.

All this is about the part of a text that is seen: a null character ends it.  Where one stands in a
name between quotes, its closing quote is not seen, and what is seen of the name is no token.
-/

namespace FilterStore.Sql.Token

open Text (doubleQuotes quoteIdent readQuoted readQuotedBody)

/-- What a token is apart from where it stands. -/
def essence (t : Token) : TokenKind × String := (t.kind, t.text)

/-- A text is cut into certain tokens, wherever it starts and in any number of steps that is
enough.  There is no blank at its end. -/
def Spells (cs : List Char) (es : List (TokenKind × String)) : Prop :=
  ∀ blank offset fuel, cs.length ≤ fuel → ∃ ts finish,
    readAll blank offset fuel cs = ts ++ [finishing (if cs = [] then blank else []) finish] ∧
      ts.map essence = es

/-- A text does not start with a character of a sort. -/
def Avoids (p : Char → Bool) (cs : List Char) : Prop := ∀ c ∈ cs.head?, p c = false

theorem avoids_nil (p : Char → Bool) : Avoids p [] := fun _ h => nomatch h

theorem Avoids.takeWhile {p : Char → Bool} {cs : List Char} (h : Avoids p cs) :
    cs.takeWhile p = [] := by
  cases cs with
  | nil => rfl
  | cons c cs => exact List.takeWhile_cons_of_neg (by simp [h c rfl])

theorem takeWhile_append_of_avoids {p : Char → Bool} {cs rest : List Char}
    (all : ∀ c ∈ cs, p c = true) (h : Avoids p rest) : (cs ++ rest).takeWhile p = cs := by
  rw [List.takeWhile_append_of_pos all, h.takeWhile, List.append_nil]

theorem spells_nil : Spells [] [] := by
  intro blank offset fuel _
  refine ⟨[], offset, ?_, rfl⟩
  cases fuel <;> rfl

/-- A text that starts with a token spells it, and what the rest spells. -/
theorem Spells.token {cs rest : List Char} {kind : TokenKind} {es : List (TokenKind × String)}
    (h : Spells rest es) (text : List Char) (split : cs = text ++ rest)
    (nonempty : text ≠ []) (solid : blankLength cs = 0) (cut : lexeme cs = (kind, text.length)) :
    Spells cs ((kind, String.ofList text) :: es) := by
  subst split
  obtain ⟨c, text, rfl⟩ := List.exists_cons_of_ne_nil nonempty
  intro blank offset fuel enough
  obtain ⟨fuel, rfl⟩ : ∃ n, fuel = n + 1 :=
    ⟨fuel - 1, by simp only [List.cons_append, List.length_cons] at enough; omega⟩
  rw [List.cons_append] at solid cut ⊢
  unfold readAll
  simp only [solid, ne_eq, not_true_eq_false, if_false, cut]
  have taken : (c :: text ++ rest).take (c :: text).length = c :: text := List.take_left
  have left : (c :: text ++ rest).drop (c :: text).length = rest := List.drop_left
  rw [List.cons_append] at taken left
  rw [taken, left]
  obtain ⟨ts, finish, run, all⟩ := h [] (offset + byteLength (c :: text)) fuel (by
    simp only [List.cons_append, List.length_cons, List.length_append] at enough
    omega)
  refine ⟨⟨kind, String.ofList blank, String.ofList (c :: text), offset⟩ :: ts, finish, ?_, ?_⟩
  · rw [run, ite_self, if_neg (List.cons_ne_nil _ _)]
    rfl
  · rw [List.map_cons, all]
    rfl

/-- A text starts with what is no blank. -/
def Solid (cs : List Char) : Prop := ∃ c rest, cs = c :: rest ∧ continuesBlank c = false

theorem Solid.append {cs : List Char} (h : Solid cs) (rest : List Char) : Solid (cs ++ rest) := by
  obtain ⟨c, cs, rfl, hc⟩ := h
  exact ⟨c, cs ++ rest, rfl, hc⟩

/-- A space in front of a text spells nothing. -/
theorem Spells.space {rest : List Char} {es : List (TokenKind × String)} (h : Spells rest es)
    (solid : Solid rest) : Spells (' ' :: rest) es := by
  obtain ⟨c, more, rfl, hc⟩ := solid
  intro blank offset fuel enough
  obtain ⟨fuel, rfl⟩ : ∃ n, fuel = n + 1 :=
    ⟨fuel - 1, by simp only [List.length_cons] at enough; omega⟩
  have length : blankLength (' ' :: c :: more) = 1 := by
    have unfolded : blankLength (' ' :: c :: more) =
      1 + ((c :: more).takeWhile continuesBlank).length := rfl
    rw [unfolded, List.takeWhile_cons_of_neg (by simp [hc])]
    rfl
  unfold readAll
  simp only [length]
  obtain ⟨ts, finish, run, all⟩ := h (blank ++ [' ']) (offset + byteLength [' ']) fuel
    (Nat.le_of_succ_le_succ enough)
  rw [if_neg (List.cons_ne_nil _ _)] at run
  exact ⟨ts, finish, run, all⟩

/-! ## Words and symbols -/

/-- The capitals that keywords start with here. -/
def initials : List Char := ['S', 'F', 'I', 'O', 'V']

theorem lexeme_word {c : Char} (hc : c ∈ initials) (cs : List Char) :
    lexeme (c :: cs) = (.word, 1 + (cs.takeWhile inWord).length) ∧ blankLength (c :: cs) = 0 := by
  simp only [initials, List.mem_cons, List.not_mem_nil, or_false] at hc
  rcases hc with rfl | rfl | rfl | rfl | rfl <;> exact ⟨rfl, rfl⟩

theorem Spells.word {c : Char} {text rest : List Char} {es : List (TokenKind × String)}
    (h : Spells rest es) (start : c ∈ initials) (letters : ∀ d ∈ text, inWord d = true)
    (stops : Avoids inWord rest) :
    Spells (c :: text ++ rest) ((.word, String.ofList (c :: text)) :: es) := by
  obtain ⟨cut, solid⟩ := lexeme_word start (text ++ rest)
  refine h.token _ rfl (List.cons_ne_nil _ _) solid ?_
  rw [List.cons_append, cut, takeWhile_append_of_avoids letters stops, List.length_cons,
    Nat.add_comm]

/-- A keyword in front of a space. -/
theorem Spells.keyword {rest : List Char} {es : List (TokenKind × String)} (h : Spells rest es)
    (solid : Solid rest) (c : Char) (text : List Char) (start : c ∈ initials)
    (letters : text.all inWord = true) :
    Spells (c :: text ++ ' ' :: rest) ((.word, String.ofList (c :: text)) :: es) := by
  refine (h.space solid).word start (List.all_eq_true.mp letters) fun d hd => ?_
  cases hd
  rfl

/-- The symbols that stand between names. -/
def marks : List Char := [',', '(', ')']

theorem Spells.symbol {c : Char} {rest : List Char} {es : List (TokenKind × String)}
    (h : Spells rest es) (hc : c ∈ marks) : Spells (c :: rest) ((.symbol, c.toString) :: es) := by
  simp only [marks, List.mem_cons, List.not_mem_nil, or_false] at hc
  rcases hc with rfl | rfl | rfl <;>
    exact h.token [_] rfl (List.cons_ne_nil _ _) rfl rfl

/-- A question mark is a parameter in front of what is no digit. -/
theorem Spells.parameter {rest : List Char} {es : List (TokenKind × String)} (h : Spells rest es)
    (stops : Avoids Char.isDigit rest) : Spells ('?' :: rest) ((.parameter, "?") :: es) := by
  refine h.token ['?'] rfl (List.cons_ne_nil _ _) rfl ?_
  have unfolded : lexeme ('?' :: rest) =
    (.parameter, 1 + (rest.takeWhile Char.isDigit).length) := rfl
  rw [unfolded, stops.takeWhile]
  rfl

/-! ## Names between quotes -/

/-- The characters of a name between quotes. -/
def quotedChars (name : List Char) : List Char := '"' :: (doubleQuotes name ++ ['"'])

theorem toList_quoteIdent (name : String) :
    (quoteIdent name).toList = quotedChars name.toList := String.toList_ofList

theorem solid_quotedChars {name : List Char} : Solid (quotedChars name) := ⟨'"', _, rfl, by decide⟩

theorem solid_quoteIdent (name : String) : Solid (quoteIdent name).toList := by
  rw [toList_quoteIdent]
  exact solid_quotedChars

/-! ### Reading the inside of quotes -/

theorem readQuotedBody_cons {c : Char} (plain : c ≠ '"') (rest : List Char) :
    readQuotedBody (c :: rest) = (readQuotedBody rest).map fun r => (c :: r.1, r.2) := by
  simp only [readQuotedBody, plain, false_implies, implies_true]

/-- **The inside of a name ends at its closing quote, whatever the name holds.** -/
theorem readQuotedBody_doubleQuotes {rest : List Char} (stops : Avoids (· == '"') rest)
    (name : List Char) : readQuotedBody (doubleQuotes name ++ '"' :: rest) = some (name, rest) := by
  induction name with
  | nil =>
    cases rest with
    | nil => rfl
    | cons d rest =>
      have other : d ≠ '"' := by simpa using stops d rfl
      simp only [doubleQuotes, List.nil_append, readQuotedBody, other, if_false]
  | cons c name ih =>
    unfold doubleQuotes
    split
    case isTrue quote =>
      subst quote
      simp only [List.cons_append, readQuotedBody, if_true, ih]
      rfl
    case isFalse plain =>
      rw [List.cons_append, readQuotedBody_cons plain, ih]
      rfl

/-- Without its closing quote it has no end. -/
theorem readQuotedBody_unclosed (name : List Char) : readQuotedBody (doubleQuotes name) = none := by
  induction name with
  | nil => rfl
  | cons c name ih =>
    unfold doubleQuotes
    split
    case isTrue quote =>
      subst quote
      simp only [readQuotedBody, if_true, ih, Option.map_none]
    case isFalse plain => rw [readQuotedBody_cons plain, ih, Option.map_none]

/-! ### Cutting it off

The length of a quoted token and the name it stands for are found by functions of their own, for
quotes of every kind.  For double quotes they do what reading does, on all texts. -/

theorem ne_quote {c : Char} {cs : List Char} (last : c = '"' → cs = [] → False)
    (doubled : ∀ d rest, c = '"' → cs = d :: rest → False) : c ≠ '"' := fun quote => by
  cases cs with
  | nil => exact last quote rfl
  | cons d rest => exact doubled d rest quote rfl

/-- What is read is cut off where reading ends, and stands for the name that was read. -/
theorem exists_of_readQuotedBody {cs name rest : List Char}
    (h : readQuotedBody cs = some (name, rest)) :
    ∃ body, body ≠ [] ∧ cs = body ++ rest ∧ quotedLength '"' cs = some body.length ∧
      unquote '"' body = name := by
  induction cs using Text.readQuotedBody.induct generalizing name with
  | case1 => cases h
  | case2 =>
    cases h
    exact ⟨['"'], List.cons_ne_nil _ _, rfl, rfl, rfl⟩
  | case3 cs ih =>
    simp only [readQuotedBody, if_true, Option.map_eq_some_iff, Prod.mk.injEq] at h
    obtain ⟨⟨name, _⟩, read, rfl, rfl⟩ := h
    obtain ⟨body, -, rfl, length, dropped⟩ := ih read
    exact ⟨'"' :: '"' :: body, List.cons_ne_nil _ _, rfl, by simp [quotedLength, length],
      by simp [unquote, dropped]⟩
  | case4 c cs other =>
    simp only [readQuotedBody, other, if_false, Option.some.injEq, Prod.mk.injEq] at h
    obtain ⟨rfl, rfl⟩ := h
    exact ⟨['"'], List.cons_ne_nil _ _, rfl, by simp [quotedLength, other], rfl⟩
  | case5 c cs last doubled ih =>
    have plain := ne_quote last doubled
    rw [readQuotedBody_cons plain] at h
    obtain ⟨⟨name, _⟩, read, pair⟩ := Option.map_eq_some_iff.mp h
    obtain ⟨rfl, rfl⟩ := Prod.mk.inj pair
    obtain ⟨body, nonempty, rfl, length, dropped⟩ := ih read
    obtain ⟨d, body, rfl⟩ := List.exists_cons_of_ne_nil nonempty
    rw [List.cons_append] at length
    exact ⟨c :: d :: body, List.cons_ne_nil _ _, rfl, by simp [quotedLength, plain, length],
      by simp [unquote, plain, dropped]⟩

/-- What cannot be read is not cut off anywhere. -/
theorem quotedLength_eq_none {cs : List Char} (h : readQuotedBody cs = none) :
    quotedLength '"' cs = none := by
  induction cs using Text.readQuotedBody.induct with
  | case1 => rfl
  | case2 => cases h
  | case3 cs ih =>
    simp only [readQuotedBody, if_true, Option.map_eq_none_iff] at h
    simp only [quotedLength, if_true, ih h, Option.map_none]
  | case4 c cs other => simp [readQuotedBody, other] at h
  | case5 c cs last doubled ih =>
    have plain := ne_quote last doubled
    rw [readQuotedBody_cons plain, Option.map_eq_none_iff] at h
    cases cs with
    | nil => simp [quotedLength, plain]
    | cons d cs => simp [quotedLength, plain, ih h]

/-! ### Tokens -/

theorem lexeme_quote (cs : List Char) : lexeme ('"' :: cs) = quoted .quotedName '"' cs := rfl

/-- **A name in double quotes is cut off a text where reading it ends, and stands for what is
read.** -/
theorem exists_of_readQuoted {cs name rest : List Char} (h : readQuoted cs = some (name, rest)) :
    ∃ text, cs = text ++ rest ∧ lexeme cs = (.quotedName, text.length) ∧
      ∀ blank offset, content ⟨.quotedName, blank, String.ofList text, offset⟩ =
        String.ofList name := by
  unfold readQuoted at h
  split at h
  case h_1 cs =>
    obtain ⟨body, -, rfl, length, dropped⟩ := exists_of_readQuotedBody h
    refine ⟨'"' :: body, rfl, ?_, fun blank offset => ?_⟩
    · rw [lexeme_quote, quoted, length]
      rfl
    · unfold content
      rw [String.toList_ofList]
      exact congrArg String.ofList dropped
  case h_2 => cases h

/-- **A name between quotes ends itself, and what follows it is left as it was.** -/
theorem readQuoted_quotedChars {rest : List Char} (stops : Avoids (· == '"') rest)
    (name : List Char) : readQuoted (quotedChars name ++ rest) = some (name, rest) := by
  have opened : quotedChars name ++ rest = '"' :: (doubleQuotes name ++ '"' :: rest) := by
    simp [quotedChars]
  rw [opened]
  exact readQuotedBody_doubleQuotes stops name

/-- So it is one token, which stands for the name. -/
theorem lexeme_quotedChars {rest : List Char} (stops : Avoids (· == '"') rest)
    (name : List Char) :
    lexeme (quotedChars name ++ rest) = (.quotedName, (quotedChars name).length) ∧
      ∀ blank offset, content ⟨.quotedName, blank, String.ofList (quotedChars name), offset⟩ =
        String.ofList name := by
  obtain ⟨text, split, cut, stands⟩ :=
    exists_of_readQuoted (readQuoted_quotedChars stops name)
  obtain rfl : quotedChars name = text := List.append_cancel_right split
  exact ⟨cut, stands⟩

theorem Spells.quotedName {rest : List Char} {es : List (TokenKind × String)}
    (h : Spells rest es) (name : List Char) (stops : Avoids (· == '"') rest) :
    Spells (quotedChars name ++ rest) ((.quotedName, String.ofList (quotedChars name)) :: es) :=
  h.token _ rfl (List.cons_ne_nil _ _) rfl (lexeme_quotedChars stops name).1

/-- A name that is not closed is no token, and takes what is left of the text with it. -/
theorem spells_unclosed (name : List Char) :
    Spells ('"' :: doubleQuotes name) [(.illegal, String.ofList ('"' :: doubleQuotes name))] := by
  refine spells_nil.token _ (List.append_nil _).symm (List.cons_ne_nil _ _) rfl ?_
  rw [lexeme_quote, quoted, quotedLength_eq_none (readQuotedBody_unclosed name)]
  rfl

/-- A name between quotes stands for the name. -/
theorem name?_quoted {t : Token} {name : String}
    (h : t.essence = (.quotedName, quoteIdent name)) : t.name? = some name := by
  obtain ⟨kind, blank, text, offset⟩ := t
  cases h
  have stands := (lexeme_quotedChars (avoids_nil _) name.toList).2 blank offset
  exact congrArg some (stands.trans String.ofList_toList)

/-! ## Where a text ends -/

/-- What is seen of a text: a null character ends it. -/
def seen (cs : List Char) : List Char := cs.takeWhile (· != Char.ofNat 0)

theorem seen_append {cs : List Char} (free : ∀ c ∈ cs, c ≠ Char.ofNat 0) (rest : List Char) :
    seen (cs ++ rest) = cs ++ seen rest :=
  List.takeWhile_append_of_pos fun c hc => bne_iff_ne.mpr (free c hc)

/-- A text is cut into the tokens that its seen part spells. -/
theorem exists_ofText {s : String} {es : List (TokenKind × String)}
    (h : Spells (seen s.toList) es) :
    ∃ ts finish, ofText s = ts ++ [finishing [] finish] ∧ ts.map essence = es := by
  have cut := h [] 0 (seen s.toList).length (Nat.le_refl _)
  rwa [ite_self] at cut

/-- In a name with a null character nothing is seen of the closing quote. -/
theorem seen_doubleQuotes {name : List Char} (nul : Char.ofNat 0 ∈ name) (rest : List Char) :
    seen (doubleQuotes name ++ rest) = doubleQuotes (seen name) := by
  induction name with
  | nil => cases nul
  | cons c name ih =>
    rcases List.mem_cons.mp nul with rfl | inside
    · rfl
    by_cases ends : c = Char.ofNat 0
    · subst ends
      rfl
    have goes (cs : List Char) : seen (c :: cs) = c :: seen cs :=
      List.takeWhile_cons_of_pos (bne_iff_ne.mpr ends)
    rw [goes]
    unfold doubleQuotes
    split
    case isTrue quote =>
      subst quote
      rw [List.cons_append, List.cons_append, goes, goes, ih inside]
    case isFalse => rw [List.cons_append, goes, ih inside]

theorem seen_quotedChars {name : List Char} (nul : Char.ofNat 0 ∈ name) (rest : List Char) :
    seen (quotedChars name ++ rest) = '"' :: doubleQuotes (seen name) := by
  have opened : quotedChars name ++ rest = ['"'] ++ (doubleQuotes name ++ '"' :: rest) := by
    simp [quotedChars]
  have first : ∀ c ∈ ['"'], c ≠ Char.ofNat 0 := List.forall_mem_singleton.mpr (by decide)
  rw [opened, seen_append first, seen_doubleQuotes nul, List.singleton_append]

end FilterStore.Sql.Token
