import FilterStore.Proofs.Query.Position
import FilterStore.Proofs.Text.Trim

/-!
# Counting placeholders piece by piece

The count of placeholders is a scan with a memory, the quote that is open.  So the count of a text
in two pieces is the count of the first and the count of the second *from the quote that the first
leaves open*.  A piece that leaves no quote open can be counted on its own, and so can what follows
it.  A quoted token closes what it opens and hides what is in it, so it can be put behind such a piece
without being noticed.

A query is *aligned* if its text leaves no quote open and asks for as many cells as the query has.
Aligned queries put end to end are aligned, and that is why a statement binds the right cells: the
placeholders before a piece are as many as the cells before it.

Blanks are neither placeholders nor quotes, and none of them closes a quote.  So a raw clause can be
counted with the blanks around it and written without them.
-/

namespace FilterStore

namespace Placeholder

open Text (isBlank AllBlank)

/-! ## The scan in pieces -/

theorem quoteAfter_append (quote : Option Char) (a b : List Char) :
    quoteAfter quote (a ++ b) = quoteAfter (quoteAfter quote a) b :=
  List.foldl_append

theorem countFrom_append (quote : Option Char) (a b : List Char) :
    countFrom quote (a ++ b) = countFrom quote a + countFrom (quoteAfter quote a) b := by
  induction a generalizing quote with
  | nil => simp [countFrom, quoteAfter]
  | cons c a ih =>
    rw [List.cons_append, countFrom, countFrom, ih, Nat.add_assoc]
    rfl

/-- The quote that a text leaves open. -/
def openAfter (sql : String) : Option Char := quoteAfter none sql.toList

/-- A text that leaves no quote open does not touch what follows it. -/
theorem openAfter_append {a : String} (ha : openAfter a = none) (b : String) :
    openAfter (a ++ b) = openAfter b := by
  rw [openAfter, String.toList_append, quoteAfter_append]
  exact congrArg (quoteAfter · b.toList) ha

theorem count_append {a : String} (ha : openAfter a = none) (b : String) :
    count (a ++ b) = count a + count b := by
  rw [count, String.toList_append, countFrom_append]
  exact congrArg (fun q => count a + countFrom q b.toList) ha

/-! ## Text without placeholders and quotes -/

/-- Whether a character is no placeholder and opens no quote. -/
def isPlain (c : Char) : Bool := c != '?' && (closing? c).isNone

/-- The placeholder and the characters that open a quote. -/
def signs : List Char := ['?', '\x27', '"', '\x60', '[']

theorem isPlain_of_notMem_signs {c : Char} (hc : c ∉ signs) : isPlain c = true := by
  simp only [signs, List.mem_cons, List.not_mem_nil, or_false, not_or] at hc
  obtain ⟨hmark, hquote, hdouble, hback, hbracket⟩ := hc
  simp [isPlain, closing?, hmark, hquote, hdouble, hback, hbracket]

/-- Characters of a kind that has no sign in it are plain. -/
theorem isPlain_of_holds {kind : Char → Bool} (hsigns : signs.any kind = false) {c : Char}
    (hc : kind c = true) : isPlain c = true :=
  isPlain_of_notMem_signs fun hmem => List.any_eq_false.mp hsigns c hmem hc

/-- A text of plain characters. -/
def Plain (s : String) : Prop := ∀ c ∈ s.toList, isPlain c = true

instance (s : String) : Decidable (Plain s) :=
  decidable_of_iff (s.toList.all isPlain = true) List.all_eq_true

theorem Plain.append {a b : String} (ha : Plain a) (hb : Plain b) : Plain (a ++ b) := by
  intro c hc
  rw [String.toList_append, List.mem_append] at hc
  exact hc.elim (ha c) (hb c)

theorem Plain.intercalate {separator : String} (hseparator : Plain separator) {parts : List String}
    (hparts : ∀ s ∈ parts, Plain s) : Plain (separator.intercalate parts) :=
  Text.intercalate_induct (by decide) Plain.append hseparator hparts

theorem step_plain {c : Char} (hc : isPlain c = true) : step none c = none := by
  rw [isPlain, Bool.and_eq_true, Option.isNone_iff_eq_none] at hc
  exact hc.2

theorem quoteAfter_plain {cs : List Char} (h : ∀ c ∈ cs, isPlain c = true) :
    quoteAfter none cs = none := by
  induction cs with
  | nil => rfl
  | cons c cs ih =>
    rw [quoteAfter, List.foldl_cons, step_plain (h c List.mem_cons_self)]
    exact ih fun d hd => h d (List.mem_cons_of_mem c hd)

theorem countFrom_plain {cs : List Char} (h : ∀ c ∈ cs, isPlain c = true) :
    countFrom none cs = 0 := by
  induction cs with
  | nil => rfl
  | cons c cs ih =>
    have hc := h c List.mem_cons_self
    have hmark : c ≠ '?' := by
      rw [isPlain, Bool.and_eq_true, bne_iff_ne] at hc
      exact hc.1
    rw [countFrom, step_plain hc, ih fun d hd => h d (List.mem_cons_of_mem c hd)]
    simp [hmark]

theorem Plain.openAfter {s : String} (h : Plain s) : openAfter s = none := quoteAfter_plain h

theorem Plain.count {s : String} (h : Plain s) : count s = 0 := countFrom_plain h

/-! ## Blanks -/

/-- No blank closes a quote. -/
theorem not_isBlank_of_closing? {c q : Char} (h : closing? c = some q) : isBlank q = false := by
  unfold closing? at h
  split at h
  · rename_i hc
    cases h
    rcases hc with rfl | rfl | rfl <;> decide
  · split at h
    · cases h
      decide
    · cases h

/-- The quote that a text leaves open is not closed by a blank. -/
theorem not_isBlank_of_quoteAfter {quote : Option Char} (cs : List Char)
    (hquote : ∀ q ∈ quote, isBlank q = false) :
    ∀ q ∈ quoteAfter quote cs, isBlank q = false := by
  induction cs generalizing quote with
  | nil => exact hquote
  | cons c cs ih =>
    refine ih fun q hq => ?_
    cases quote with
    | none => exact not_isBlank_of_closing? hq
    | some p =>
      simp only [step] at hq
      split at hq
      · cases hq
      · exact hquote q hq

/-- A blank is neither a placeholder nor a quote. -/
theorem isPlain_of_isBlank {c : Char} (hc : isBlank c = true) : isPlain c = true :=
  isPlain_of_holds (by decide) hc

/-- A blank leaves the scan where it is. -/
theorem step_blank {quote : Option Char} (hquote : ∀ q ∈ quote, isBlank q = false) {c : Char}
    (hc : isBlank c = true) : step quote c = quote := by
  cases quote with
  | none => exact step_plain (isPlain_of_isBlank hc)
  | some q =>
    have hne : c ≠ q := by
      rintro rfl
      rw [hquote c rfl] at hc
      cases hc
    simp [step, hne]

theorem scan_blanks {quote : Option Char} (hquote : ∀ q ∈ quote, isBlank q = false)
    {cs : List Char} (hcs : AllBlank cs) :
    quoteAfter quote cs = quote ∧ countFrom quote cs = 0 := by
  induction cs with
  | nil => exact ⟨rfl, rfl⟩
  | cons c cs ih =>
    have hc := hcs c List.mem_cons_self
    have hmark : c ≠ '?' := by
      rintro rfl
      exact absurd hc (by decide)
    obtain ⟨hafter, hcount⟩ := ih fun d hd => hcs d (List.mem_cons_of_mem c hd)
    refine ⟨?_, ?_⟩
    · rw [quoteAfter, List.foldl_cons, step_blank hquote hc]
      exact hafter
    · rw [countFrom, step_blank hquote hc, hcount]
      simp [hmark]

/-- **Trimming changes neither the placeholders of a text nor the quote it leaves open.** -/
theorem scan_trim (s : String) :
    openAfter (Text.trim s) = openAfter s ∧ count (Text.trim s) = count s := by
  obtain ⟨before, after, hbefore, hafter, heq⟩ := Text.exists_trimChars_eq s.toList
  have htrim : (Text.trim s).toList = Text.trimChars s.toList := String.toList_ofList
  generalize Text.trimChars s.toList = core at heq htrim
  have hnone : ∀ q ∈ (none : Option Char), isBlank q = false := fun q hq => by cases hq
  obtain ⟨hquoteBefore, hcountBefore⟩ := scan_blanks hnone hbefore
  obtain ⟨hquoteAfter, hcountAfter⟩ :=
    scan_blanks (not_isBlank_of_quoteAfter core hnone) hafter
  refine ⟨?_, ?_⟩
  · rw [openAfter, openAfter, htrim, heq, quoteAfter_append, quoteAfter_append, hquoteBefore,
      hquoteAfter]
  · rw [count, count, htrim, heq, countFrom_append, countFrom_append, hquoteBefore, hcountBefore,
      hcountAfter, Nat.add_zero, Nat.zero_add]

/-! ## Quoted tokens -/

/-- The characters of a name with one of them written twice. -/
def doubled (q : Char) (name : List Char) : List Char :=
  name.flatMap fun c => if c = q then [q, q] else [c]

/-- What can stand in a quote that one character opens and another closes: a text without the closing
character, or, if a quote is closed by what opens it, a text in which it occurs only doubled. -/
def Fits (opening closing : Char) (content : List Char) : Prop :=
  closing ∉ content ∨ opening = closing ∧ ∃ name, content = doubled closing name

/-- A quoted literal or identifier. -/
def IsQuoted (token : String) : Prop :=
  ∃ opening closing content, closing? opening = some closing ∧ Fits opening closing content ∧
    token.toList = opening :: (content ++ [closing])

/-- The mark of a placeholder opens no quote. -/
theorem ne_mark_of_closing? {c q : Char} (h : closing? c = some q) : c ≠ '?' := by
  rintro rfl
  have none : closing? '?' = none := rfl
  cases none.symm.trans h

/-- A quote stays open where nothing closes it, and nothing in it is counted. -/
theorem scan_open {q : Char} {content : List Char} (h : q ∉ content) :
    quoteAfter (some q) content = some q ∧ countFrom (some q) content = 0 := by
  induction content with
  | nil => exact ⟨rfl, rfl⟩
  | cons c content ih =>
    rw [List.mem_cons, not_or] at h
    obtain ⟨other, rest⟩ := h
    obtain ⟨hafter, hcount⟩ := ih rest
    have stays : step (some q) c = some q := by
      rw [step, if_neg (Ne.symm other)]
    refine ⟨?_, ?_⟩
    · rw [quoteAfter, List.foldl_cons, stays]
      exact hafter
    · rw [countFrom, stays, hcount, if_neg fun inside => Option.some_ne_none q inside.1]

/-- A doubled quote closes and opens again. -/
theorem scan_doubled {q : Char} (hq : closing? q = some q) (name : List Char) :
    quoteAfter (some q) (doubled q name) = some q ∧ countFrom (some q) (doubled q name) = 0 := by
  have pair : quoteAfter (some q) [q, q] = some q ∧ countFrom (some q) [q, q] = 0 := by
    have closes : step (some q) q = none := by
      rw [step, if_pos rfl]
    have opens : step none q = some q := hq
    have mark := ne_mark_of_closing? hq
    refine ⟨?_, ?_⟩
    · rw [quoteAfter, List.foldl_cons, closes, List.foldl_cons, opens, List.foldl_nil]
    · simp [countFrom, closes, mark]
  induction name with
  | nil => exact ⟨rfl, rfl⟩
  | cons c name ih =>
    have piece : quoteAfter (some q) (if c = q then [q, q] else [c]) = some q ∧
        countFrom (some q) (if c = q then [q, q] else [c]) = 0 := by
      by_cases same : c = q
      · rw [if_pos same]
        exact pair
      · rw [if_neg same]
        exact scan_open fun hmem => same (List.mem_singleton.mp hmem).symm
    rw [doubled, List.flatMap_cons, ← doubled, quoteAfter_append, countFrom_append, piece.1, piece.2]
    exact ⟨ih.1, by rw [ih.2]⟩

/-- **A quoted token leaves no quote open and asks for no cell.** -/
theorem scan_quoted {token : String} (h : IsQuoted token) :
    openAfter token = none ∧ count token = 0 := by
  obtain ⟨opening, closing, content, opens, fits, htoken⟩ := h
  have inside : quoteAfter (some closing) content = some closing ∧
      countFrom (some closing) content = 0 := by
    rcases fits with without | ⟨rfl, name, rfl⟩
    · exact scan_open without
    · exact scan_doubled opens name
  have start : step none opening = some closing := opens
  have mark := ne_mark_of_closing? opens
  refine ⟨?_, ?_⟩
  · rw [openAfter, htoken, quoteAfter, List.foldl_cons, start, ← quoteAfter, quoteAfter_append,
      inside.1]
    simp [quoteAfter, step]
  · rw [count, htoken, countFrom, start, countFrom_append, inside.1, inside.2]
    simp [countFrom, mark]

/-- **The count is additive behind a text that leaves no quote open**: what follows such a text is
scanned as if it stood alone, and a quoted token put in between is not seen, whatever is in it. -/
theorem count_behind {a : String} (ha : openAfter a = none) (b : String) :
    count (a ++ b) = count a + count b ∧ openAfter (a ++ b) = openAfter b ∧
      ∀ token, IsQuoted token →
        count (a ++ token ++ b) = count (a ++ b) ∧
          openAfter (a ++ token ++ b) = openAfter (a ++ b) := by
  refine ⟨count_append ha b, openAfter_append ha b, fun token htoken => ?_⟩
  obtain ⟨closed, nothing⟩ := scan_quoted htoken
  have hboth : openAfter (a ++ token) = none := by
    rw [openAfter_append ha]
    exact closed
  refine ⟨?_, ?_⟩
  · rw [count_append hboth, count_append ha, count_append ha, nothing, Nat.add_zero]
  · rw [openAfter_append hboth, openAfter_append ha]

/-- A literal with a doubled quote and a placeholder's mark in it, between two placeholders, the last
one with an open quote behind it. -/
theorem count_behind_literal :
    openAfter "a = ? AND b IN (" = none ∧ IsQuoted "'it''s ?'" ∧
      count ("a = ? AND b IN (" ++ "'it''s ?'" ++ ", ?) AND c = \"?") = 2 ∧
        openAfter ("a = ? AND b IN (" ++ "'it''s ?'" ++ ", ?) AND c = \"?") = some '"' := by
  have ha : openAfter "a = ? AND b IN (" = none := by decide
  have hquoted : IsQuoted "'it''s ?'" :=
    ⟨'\x27', '\x27', doubled '\x27' "it's ?".toList, rfl, .inr ⟨rfl, _, rfl⟩, by decide⟩
  obtain ⟨hadd, hopen, hinsert⟩ := count_behind ha ", ?) AND c = \"?"
  obtain ⟨hcount, hafter⟩ := hinsert _ hquoted
  refine ⟨ha, hquoted, ?_, ?_⟩
  · rw [hcount, hadd]
    decide
  · rw [hafter, hopen]
    decide

-- A bracket is closed by the first character that closes it, and doubling that one does not help.
example : count "[a]]?]" = 1 := by decide

end Placeholder

/-! ## Aligned queries -/

namespace Query

open Placeholder (openAfter Plain)

/-- The text of a query leaves no quote open and asks for as many cells as there are. -/
structure Aligned (q : Query) : Prop where
  closed : openAfter q.sql = none
  arity : q.placeholders = q.values.length

theorem Aligned.append {a b : Query} (ha : a.Aligned) (hb : b.Aligned) : (a ++ b).Aligned where
  closed := by
    rw [sql_append, Placeholder.openAfter_append ha.closed]
    exact hb.closed
  arity := by
    rw [placeholders, sql_append, Placeholder.count_append ha.closed, values_append,
      List.length_append]
    exact congr (congrArg HAdd.hAdd ha.arity) hb.arity

theorem aligned_text {s : String} (h : Plain s) : (text s).Aligned where
  closed := h.openAfter
  arity := h.count

/-- Plain text before a query changes nothing. -/
theorem Aligned.prepend {s : String} {cells : List Cell} (h : (⟨s, cells⟩ : Query).Aligned)
    {before : String} (hbefore : Plain before) : (⟨before ++ s, cells⟩ : Query).Aligned :=
  (aligned_text hbefore).append h

/-- Neither does plain text behind it. -/
theorem Aligned.postpend {s : String} {cells : List Cell} (h : (⟨s, cells⟩ : Query).Aligned)
    {after : String} (hafter : Plain after) : (⟨s ++ after, cells⟩ : Query).Aligned := by
  have h := h.append (aligned_text hafter)
  have hvalues : (⟨s, cells⟩ ++ text after : Query) = ⟨s ++ after, cells⟩ :=
    Query.ext rfl (List.append_nil cells)
  rwa [hvalues] at h

/-- A placeholder for a cell. -/
def mark (c : Cell) : Query := ⟨"?", [c]⟩

theorem aligned_mark (c : Cell) : (mark c).Aligned where
  closed := (by decide : openAfter "?" = none)
  arity := (by decide : Placeholder.count "?" = 1)

end Query

namespace RawClause

/-- The text of a raw clause leaves no quote open. -/
def Closed (raw : RawClause) : Prop := Placeholder.openAfter raw.sql = none

/-- A raw clause that is accepted and leaves no quote open is aligned where it is written. -/
theorem aligned_query {raw : RawClause} (haccepted : raw.Accepted) (hclosed : raw.Closed) :
    raw.query.Aligned where
  closed := by
    rw [query, (Placeholder.scan_trim raw.sql).1]
    exact hclosed
  arity := by
    rw [Query.placeholders, query, (Placeholder.scan_trim raw.sql).2]
    exact haccepted.arity

end RawClause

end FilterStore
