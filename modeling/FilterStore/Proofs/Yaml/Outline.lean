import FilterStore.Proofs.Yaml.Value
import FilterStore.Yaml.Reader

/-!
# Outlines are read back

An outline is a document of mappings with scalars at the leaves.  An entry has a name, and behind it
a value on the same line or, on the lines below, entries of its own, which are indented by two more.

It is read back in two passes.  The scanner goes through it entry by entry and leaves the tokens of
the entries, with a mark where the entries of a section start and one where they end; the reader goes
through the tokens and leaves the nodes.
-/

namespace FilterStore.Yaml

open Scan (Standing keyTokens opening opened opens)

/-- Entries of a document, one after the other. -/
inductive Outline
  | nil
  /-- An entry with a value: what is written, and the scalar it is. -/
  | entry (name written : List Char) (text : String) (style : Style) (rest : Outline)
  /-- An entry with entries of its own. -/
  | part (name : List Char) (inside rest : Outline)

namespace Outline

/-- The entries as they are written at a column. -/
def text (column : Nat) : Outline → List Char
  | nil => []
  | entry name written _ _ rest =>
    spaces column ++ (name ++ ':' :: ' ' :: (written ++ rest.text column))
  | part name inside rest =>
    spaces column ++ (name ++ ':' :: '\n' :: (inside.text (column + 2) ++ rest.text column))

/-- The name of an entry. -/
def IsKey (name : List Char) : Prop := IsWord name ∧ name.length ≤ 1024

instance (name : List Char) : Decidable (IsKey name) := inferInstanceAs (Decidable (_ ∧ _))

/-- Names are names, values are written as what they are, and no section is empty. -/
def Fits (column : Nat) : Outline → Prop
  | nil => True
  | entry name written text style rest =>
    IsKey name ∧ IsWritten column written text style ∧ rest.Fits column
  | part name inside rest =>
    IsKey name ∧ (inside ≠ nil ∧ inside.Fits (column + 2)) ∧
      rest.Fits column

/-- The tokens of the entries. -/
def tokens : Outline → List Token
  | nil => []
  | entry name _ text style rest => keyTokens name ++ .scalar text style :: rest.tokens
  | part name inside rest =>
    keyTokens name ++ .blockMapping :: (inside.tokens ++ .blockEnd :: rest.tokens)

/-- The nodes of the entries. -/
def nodes : Outline → List (Yaml × Yaml)
  | nil => []
  | entry name _ text style rest =>
    (.scalar (String.ofList name) .plain none, .scalar text style none) :: rest.nodes
  | part name inside rest =>
    (.scalar (String.ofList name) .plain none, .mapping inside.nodes) :: rest.nodes

/-- How many steps the scanner takes. -/
def steps : Outline → Nat
  | nil => 0
  | entry _ _ _ _ rest => 3 + rest.steps
  | part _ inside rest => 2 + inside.steps + rest.steps

/-! ## The tokens of an outline -/

theorem text_entry_append (column : Nat) (name written : List Char) (text : String) (style : Style)
    (rest : Outline) (after : List Char) :
    (entry name written text style rest).text column ++ after =
      spaces column ++ (name ++ ':' :: ' ' :: (written ++ (rest.text column ++ after))) := by
  simp [Outline.text]

theorem text_part_append (column : Nat) (name : List Char) (inside rest : Outline)
    (after : List Char) :
    (part name inside rest).text column ++ after = spaces column ++
      (name ++ ':' :: '\n' :: (inside.text (column + 2) ++ (rest.text column ++ after))) := by
  simp [Outline.text]

/-- Entries at a column start a line there. -/
theorem next {column : Nat} {o : Outline} (fits : o.Fits column) {after : List Char}
    (behind : Next (column + 1) after) : Next (column + 1) (o.text column ++ after) := by
  cases o with
  | nil => exact behind
  | entry name written text style rest =>
    exact ⟨column, _, Nat.lt_succ_self column, fits.1.1.starts _, text_entry_append ..⟩
  | part name inside rest =>
    exact ⟨column, _, Nat.lt_succ_self column, fits.1.1.starts _, text_part_append ..⟩

/-- **The scan goes through an outline.**  It opens a mapping for the entries unless there is one, and
it stops where the next line is known. -/
theorem readAll {o : Outline} {column : Nat} (fits : o.Fits column) {after : List Char}
    (behind : Next (column + 1) after) {s : Scan} {ts : List Token} {indents : List Nat}
    (h : s.Standing (o.text column ++ after) ts indents)
    (shallow : ∀ i ∈ indents.head?, i ≤ column) (within : o = nil → opens column indents = false) :
    ∃ t, (∀ n, Scan.readAll (n + o.steps) s = Scan.readAll n t) ∧
      t.Standing after (ts ++ opening column indents ++ o.tokens) (opened column indents) := by
  induction o generalizing column after s ts indents with
  | nil =>
    have still := within rfl
    refine ⟨s, fun n => rfl, ?_⟩
    simpa [opening, opened, still, tokens, Outline.text] using h
  | entry name written text style rest ih =>
    obtain ⟨⟨isName, short⟩, isWritten, others⟩ := fits
    rw [text_entry_append] at h
    obtain ⟨line, key⟩ := h.readAll_name isName short rfl shallow
    obtain ⟨outer, same⟩ := Scan.exists_opened shallow
    have inside : column ≤ column + name.length + 1 := by omega
    obtain ⟨u, value, standing⟩ := isWritten.readAll (rest.next others behind) line inside
      (ts ++ opening column indents ++ keyTokens name) outer
    obtain ⟨t, read, standing⟩ := ih others behind standing (by simp) fun _ =>
      Scan.opens_self column outer
    refine ⟨t, fun n => ?_, ?_⟩
    · have count : n + (entry name written text style rest).steps = n + rest.steps + 1 + 2 := by
        simp only [steps]
        omega
      rw [count, key, same, value, read]
    · rw [same]
      simpa [tokens] using standing
  | part name inside rest ihInside ihRest =>
    obtain ⟨⟨isName, short⟩, ⟨some', entries⟩, others⟩ := fits
    rw [text_part_append] at h
    obtain ⟨line, key⟩ := h.readAll_name isName short rfl shallow
    obtain ⟨outer, same⟩ := Scan.exists_opened shallow
    have later : Next (column + 1) (rest.text column ++ after) := rest.next others behind
    have below : Next (column + 2 + 1) (rest.text column ++ after) := later.mono (by omega)
    have deeper : column < column + 2 := by omega
    have standing := Standing.lineEnd (inside.next entries below) line (column + name.length + 1)
      (ts ++ opening column indents ++ keyTokens name) (column :: outer) false
    obtain ⟨u, read, standing⟩ := ihInside entries below standing (by simp) fun none => absurd none some'
    -- The entries of the section open a mapping, and the line behind them closes it.
    rw [Scan.opening_deeper deeper, Scan.opened_deeper deeper] at standing
    have closed := standing.close (Nat.lt_succ_of_lt (later.column_lt 0))
    obtain ⟨t, readRest, standing⟩ := ihRest others behind closed (by simp) fun _ =>
      Scan.opens_self column outer
    refine ⟨t, fun n => ?_, ?_⟩
    · have count : n + (part name inside rest).steps = n + rest.steps + inside.steps + 2 := by
        simp only [steps]
        omega
      rw [count, key, same, read, readRest]
    · rw [same]
      simpa [tokens] using standing

/-- Every step takes a character off the text. -/
theorem steps_le {o : Outline} {column : Nat} (fits : o.Fits column) :
    o.steps ≤ (o.text column).length := by
  induction o generalizing column with
  | nil => exact Nat.zero_le _
  | entry name written text style rest ih =>
    have others := ih fits.2.2
    have named : 0 < name.length := List.length_pos_iff.mpr fits.1.1.1
    simp only [steps, Outline.text, List.length_append, List.length_cons]
    omega
  | part name inside rest ihInside ihRest =>
    have entries := ihInside fits.2.1.2
    have others := ihRest fits.2.2
    simp only [steps, Outline.text, List.length_append, List.length_cons]
    omega

theorem isShown_text {o : Outline} {column : Nat} (fits : o.Fits column) :
    ∀ c ∈ o.text column, isShown c = true := by
  have blanks (n : Nat) : ∀ c ∈ spaces n, isShown c = true := by
    intro c hc
    rw [(List.mem_replicate.mp hc).2]
    decide
  induction o generalizing column with
  | nil => nofun
  | entry name written text style rest ih =>
    simp only [Outline.text, List.forall_mem_append, List.forall_mem_cons]
    exact ⟨blanks column, fits.1.1.isShown, by decide, by decide, fits.2.1.shown, ih fits.2.2⟩
  | part name inside rest ihInside ihRest =>
    simp only [Outline.text, List.forall_mem_append, List.forall_mem_cons]
    exact ⟨blanks column, fits.1.1.isShown, by decide, by decide, ihInside fits.2.1.2,
      ihRest fits.2.2⟩

/-- **The tokens of an outline** are those of its entries, in a mapping. -/
theorem tokens_text {o : Outline} (some' : o ≠ nil) (fits : o.Fits 0) :
    Yaml.tokens (String.ofList (o.text 0)) = some (.blockMapping :: (o.tokens ++ [.blockEnd])) := by
  have nothing : Next 1 [] := ⟨0, [], by decide, nofun, rfl⟩
  have next := next fits nothing
  rw [List.append_nil] at next
  have start : Scan.start (o.text 0) = ⟨.ofLine 0 (o.text 0), [].toArray, [], [none], true⟩ := by
    obtain ⟨n, rest, less, starts, same⟩ := next
    obtain rfl : n = 0 := Nat.lt_one_iff.mp less
    rw [same, Place.ofLine_spaces 0 0 starts.solid]
    rfl
  have standing : (Scan.start (o.text 0)).Standing (o.text 0 ++ []) [] [] := by
    rw [start, List.append_nil]
    exact .ofLine next 0 [] []
  obtain ⟨t, read, standing⟩ := readAll fits nothing standing nofun fun none => absurd none some'
  have count : (o.text 0).length + 1 = (o.text 0).length - o.steps + 1 + o.steps := by
    have enough := steps_le fits
    omega
  rw [Yaml.tokens, String.toList_ofList, uniform_of_isShown (isShown_text fits),
    Option.bind_eq_bind, Option.bind_some, count, read, standing.readAll_end]
  rfl

end Outline

/-! ## The nodes of an outline -/

section Nodes

variable (r : Reading) (ts : List Token)

theorem run_accept_self (t : Token) :
    (NodeReader.accept t).run { r with tokens := t :: ts } = some (true, { r with tokens := ts }) := by
  simp [NodeReader.accept, NodeReader.peek, NodeReader.skip]

theorem run_accept_other {t u : Token} (other : u ≠ t) :
    (NodeReader.accept t).run { r with tokens := u :: ts } =
      some (false, { r with tokens := u :: ts }) := by
  simp [NodeReader.accept, NodeReader.peek, other]

/-- A scalar is a node. -/
theorem run_readNode_scalar (fuel : Nat) (site : Site) (text : String) (style : Style) :
    (readNode (fuel + 2) site).run { r with tokens := .scalar text style :: ts } =
      some (.scalar text style none, { r with tokens := ts }) := by
  simp [readNode, readContent, readProperties, NodeReader.peek, NodeReader.skip, scalarTag]

/-- The entries of a mapping are a node. -/
theorem run_readNode_mapping {fuel : Nat} {entries : List (Yaml × Yaml)} {ts rest : List Token}
    (read : (readBlockEntries fuel).run { r with tokens := ts } =
      some (entries, { r with tokens := rest })) (indentless : Bool) :
    (readNode (fuel + 2) (.block indentless)).run { r with tokens := .blockMapping :: ts } =
      some (.mapping entries, { r with tokens := rest }) := by
  simp [readNode, readContent, readProperties, NodeReader.peek, NodeReader.skip, read]

/-- What may not be left out is a node. -/
theorem run_readUnless {t : Token} {ends : List Token} (other : t ∉ ends) (fuel : Nat)
    (site : Site) :
    (readUnless (fuel + 1) site ends).run { r with tokens := t :: ts } =
      (readNode fuel site).run { r with tokens := t :: ts } := by
  simp [readUnless, NodeReader.atOneOf, NodeReader.peek, other]

/-- The end of a mapping. -/
theorem run_readBlockEntries_end (fuel : Nat) :
    (readBlockEntries (fuel + 1)).run { r with tokens := .blockEnd :: ts } =
      some ([], { r with tokens := ts }) := by
  simp [readBlockEntries, run_accept_self]

/-- An entry of a mapping. -/
theorem run_readBlockEntries_entry {fuel : Nat} {t : Token} {ts rest : List Token} {node : Yaml}
    (other : t ∉ [Token.key, .value, .blockEnd])
    (read : (readNode (fuel + 2) (.block true)).run { r with tokens := t :: ts } =
      some (node, { r with tokens := rest })) {entries : List (Yaml × Yaml)} {r' : Reading}
    (more : (readBlockEntries (fuel + 3)).run { r with tokens := rest } = some (entries, r'))
    (name : List Char) :
    (readBlockEntries (fuel + 4)).run { r with tokens := keyTokens name ++ t :: ts } =
      some ((.scalar (String.ofList name) .plain none, node) :: entries, r') := by
  have key : Token.scalar (String.ofList name) .plain ∉ [Token.key, .value, .blockEnd] := by simp
  rw [readBlockEntries]
  simp [keyTokens, run_accept_self, run_accept_other, run_readUnless r _ key,
    run_readUnless r _ other, run_readNode_scalar, read, more]

/-- **The entries of an outline are read off their tokens.** -/
theorem Outline.run_readBlockEntries (o : Outline) {fuel : Nat} (enough : o.tokens.length + 4 ≤ fuel) :
    (readBlockEntries fuel).run { r with tokens := o.tokens ++ .blockEnd :: ts } =
      some (o.nodes, { r with tokens := ts }) := by
  induction o generalizing fuel ts with
  | nil =>
    obtain ⟨fuel, rfl⟩ : ∃ m, fuel = m + 1 := ⟨fuel - 1, by omega⟩
    exact run_readBlockEntries_end r ts fuel
  | entry name written text style rest ih =>
    simp only [tokens, List.length_append, List.length_cons, keyTokens, List.length_nil] at enough
    obtain ⟨fuel, rfl⟩ : ∃ m, fuel = m + 4 := ⟨fuel - 4, by omega⟩
    have scalar : Token.scalar text style ∉ [Token.key, .value, .blockEnd] := by simp
    rw [tokens, List.append_assoc, List.cons_append]
    exact run_readBlockEntries_entry r scalar (run_readNode_scalar r _ fuel _ text style)
      (ih ts (by omega)) name
  | part name inside rest ihInside ihRest =>
    simp only [tokens, List.length_append, List.length_cons, keyTokens, List.length_nil] at enough
    obtain ⟨fuel, rfl⟩ : ∃ m, fuel = m + 4 := ⟨fuel - 4, by omega⟩
    have mapping : Token.blockMapping ∉ [Token.key, .value, .blockEnd] := by simp
    have room : inside.tokens.length + 4 ≤ fuel := by omega
    have entries := ihInside (rest.tokens ++ .blockEnd :: ts) room
    rw [tokens, List.append_assoc, List.cons_append, List.append_assoc, List.cons_append]
    exact run_readBlockEntries_entry r mapping (run_readNode_mapping r entries true)
      (ihRest ts (by omega)) name

/-- A text that is one mapping. -/
theorem run_readDocument_mapping {fuel : Nat} {entries : List (Yaml × Yaml)} {ts : List Token}
    (read : (readBlockEntries fuel).run { r with tokens := ts } =
      some (entries, { r with tokens := [] })) :
    (readDocument (fuel + 2)).run { r with tokens := .blockMapping :: ts } =
      some (some (.mapping entries), { r with tokens := [] }) := by
  have node := run_readNode_mapping r read false
  simp [readDocument, NodeReader.peek, node]

end Nodes

/-- **An outline is read back.**  It has no anchors. -/
theorem Outline.parse_text {o : Outline} (some' : o ≠ nil) (fits : o.Fits 0) :
    parse (String.ofList (o.text 0)) = some ⟨some (.mapping o.nodes), []⟩ := by
  let start : Reading := ⟨[], standardHandles, [], [], []⟩
  let ts : List Token := .blockMapping :: (o.tokens ++ [.blockEnd])
  have enough : o.tokens.length + 4 ≤ 4 * ts.length + 2 := by
    simp only [ts, List.length_cons, List.length_append, List.length_nil]
    omega
  have document : (readDocument (4 * ts.length + 4)).run { start with tokens := ts } =
      some (some (.mapping o.nodes), start) :=
    run_readDocument_mapping start (o.run_readBlockEntries start [] enough)
  rw [parse, tokens_text some' fits]
  simp only [Option.bind_eq_bind, Option.bind_some]
  rw [document]
  rfl

end FilterStore.Yaml
