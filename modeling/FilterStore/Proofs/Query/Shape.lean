import FilterStore.Proofs.Query.Placeholder
import FilterStore.Proofs.Schema.Identifier

/-!
# The shapes of conditions

A statement is mostly words of SQL and names, which ask for no cells.  Between them stand the parts
that do: a placeholder for a field of a record, the condition of a clause, a raw clause.  A query is
*woven* from such parts if it is the parts in their order with plain text before, between and behind
them.

Then the cells of the query are those of the parts in order, and if all parts are aligned, so is the
query.  What is more, the placeholders before a part are as many as the cells before it, so the part
gets the cells it brings along.  Weaving is closed under putting queries end to end, and that is how
statements are built.

A clause is compiled by one of seven functions, and what they write has few shapes: a column with
words behind it and one placeholder for each cell, or a raw operand after such words.  Anything that
is to hold of every condition needs to be looked at once for each shape.

`Clause.Shape` lists the shapes together with the raw operands that are in them, and
`ColumnClause.exists_shape` says that there are no others.  The column is the registered name in
small letters, except where a clause asks whether a subquery has rows: no column is written then,
and none is looked up.  A raw operand of `ISNULL` or `NOT ISNULL` is neither written nor checked.

All shapes are aligned.  For the raw ones this takes that the raw clause leaves no quote open; its
cells have been counted.
-/

/-! ## Plain text between queries -/

namespace FilterStore.Query

open Placeholder (Plain)

/-- A query that is some parts in order with plain text around them. -/
inductive Woven : List Query → Query → Prop
  | plain {s : String} (hs : Plain s) : Woven [] (.text s)
  | next {s : String} (hs : Plain s) (part : Query) {parts : List Query} {q : Query}
    (hq : Woven parts q) : Woven (part :: parts) (.text s ++ part ++ q)

namespace Woven

variable {parts others : List Query} {p q : Query}

/-- Plain text in front. -/
theorem prepend (hq : Woven parts q) {s : String} (hs : Plain s) : Woven parts (.text s ++ q) := by
  have joined : ∀ s' : String, (text s ++ text s' : Query) = text (s ++ s') := fun s' => rfl
  cases hq with
  | plain hs' =>
    rw [joined]
    exact .plain (hs.append hs')
  | next hs' part hq =>
    rw [append_assoc, ← append_assoc (text s), joined, ← append_assoc]
    exact .next (hs.append hs') part hq

theorem append (hp : Woven parts p) (hq : Woven others q) : Woven (parts ++ others) (p ++ q) := by
  induction hp with
  | plain hs => exact hq.prepend hs
  | next hs part _ ih =>
    rw [append_assoc]
    exact .next hs part ih

/-- Plain text behind. -/
theorem append_text (hq : Woven parts q) {s : String} (hs : Plain s) :
    Woven parts (q ++ .text s) := by
  have h := hq.append (.plain hs)
  rwa [List.append_nil] at h

theorem empty : Woven [] .empty := .plain (by decide)

theorem part (q : Query) : Woven [q] q := by
  have h := Woven.next (s := "") (by decide) q Woven.empty
  rwa [append_empty, show (text "" : Query) = .empty from rfl, empty_append] at h

theorem congr (hq : Woven parts q) (sql : q.sql = p.sql) (values : q.values = p.values) :
    Woven parts p :=
  Query.ext sql values ▸ hq

theorem values (hq : Woven parts q) : q.values = parts.flatMap Query.values := by
  induction hq with
  | plain hs => rfl
  | next hs part _ ih =>
    rw [values_append, values_append, values_text, List.nil_append, ih, List.flatMap_cons]

/-- **A query that is woven from aligned parts is aligned.** -/
theorem aligned (hq : Woven parts q) (hparts : ∀ part ∈ parts, part.Aligned) : q.Aligned := by
  induction hq with
  | plain hs => exact aligned_text hs
  | next hs part _ ih =>
    refine ((aligned_text hs).append (hparts part List.mem_cons_self)).append ?_
    exact ih fun p hp => hparts p (List.mem_cons_of_mem part hp)

theorem aligned_of_marks {α : Type} {cell : α → Cell} {xs : List α}
    (hq : Woven (xs.map fun x => mark (cell x)) q) : q.Aligned := by
  refine hq.aligned fun part hpart => ?_
  obtain ⟨x, -, rfl⟩ := List.mem_map.mp hpart
  exact aligned_mark (cell x)

/-- A query can be cut before and behind each of its parts. -/
theorem exists_split {before after : List Query} {part : Query}
    (hq : Woven (before ++ part :: after) q) :
    ∃ front back, q = front ++ part ++ back ∧ Woven before front ∧ Woven after back := by
  induction before generalizing q with
  | nil =>
    cases hq with
    | @next s hs _ _ back hback => exact ⟨text s, back, rfl, .plain hs, hback⟩
  | cons first before ih =>
    cases hq with
    | @next s hs _ _ rest hrest =>
      obtain ⟨front, back, rfl, hfront, hback⟩ := ih hrest
      refine ⟨text s ++ first ++ front, back, ?_, .next hs first hfront, hback⟩
      simp only [append_assoc]

/-- Queries woven one by one, with plain text between them. -/
theorem intercalate {separator : String} (hseparator : Plain separator) {α : Type}
    (text : α → String) (parts : α → List Query) (cells : α → List Cell) {xs : List α}
    (hxs : ∀ x ∈ xs, Woven (parts x) ⟨text x, cells x⟩) :
    Woven (xs.flatMap parts) ⟨separator.intercalate (xs.map text), xs.flatMap cells⟩ := by
  induction xs with
  | nil => exact Woven.empty
  | cons x rest ih =>
    have hx := hxs x List.mem_cons_self
    have hrest := ih fun y hy => hxs y (List.mem_cons_of_mem x hy)
    cases rest with
    | nil =>
      rw [List.flatMap_cons, List.flatMap_cons, List.flatMap_nil, List.flatMap_nil,
        List.append_nil, List.append_nil]
      exact hx
    | cons y rest =>
      rw [List.flatMap_cons, List.flatMap_cons, List.map_cons, List.map_cons,
        String.intercalate_cons_cons, String.append_assoc]
      exact hx.append (hrest.prepend hseparator)

/-- A placeholder for each cell, with plain text before it and between them. -/
theorem intercalate_marks {separator : String} (hseparator : Plain separator) {α : Type}
    (before : α → String) (cell : α → Cell) (xs : List α) (hxs : ∀ x ∈ xs, Plain (before x)) :
    Woven (xs.map fun x => mark (cell x))
      ⟨separator.intercalate (xs.map fun x => before x ++ "?"), xs.map cell⟩ := by
  have h := intercalate hseparator (fun x => before x ++ "?") (fun x => [mark (cell x)])
    (fun x => [cell x]) fun x hx => (Woven.part (mark (cell x))).prepend (hxs x hx)
  rwa [← List.map_eq_flatMap, ← List.map_eq_flatMap] at h

end Woven

/-- Placeholders with commas between them. -/
def marks (n : Nat) : String := ", ".intercalate (List.replicate n "?")

theorem woven_marks (cells : List Cell) : Woven (cells.map mark) ⟨marks cells.length, cells⟩ := by
  have h := Woven.intercalate_marks (by decide : Plain ", ") (fun _ => "") id cells
    fun _ _ => by decide
  rwa [List.map_id, List.map_const'] at h

end FilterStore.Query

/-! ## Shapes -/

namespace FilterStore

open Placeholder (Plain)
open Text (IsWord lower)

namespace Clause

/-- The raw operand that is written into a condition. -/
def writtenRaw? (o : Operator) (operand : Option Operand) : Option RawClause :=
  match o, operand with
  | .isNull, _ => none
  | .notNull, _ => none
  | _, some (.raw raw) => some raw
  | _, _ => none

/-- What a clause on a column becomes, by the raw clause that is written into it. -/
inductive Shape (column : String) : Option RawClause → Query → Prop
  | isNull : Shape column none (.text (column ++ " ISNULL"))
  | notNull : Shape column none (.text (column ++ " NOTNULL"))
  | compared (o : Operator) (cell : Cell) :
    Shape column none ⟨column ++ " " ++ o.name ++ " ?", [cell]⟩
  | between (o : Operator) (low high : Cell) :
    Shape column none ⟨column ++ " " ++ o.name ++ " ? AND ?", [low, high]⟩
  | among (o : Operator) (cells : List Cell) (hcells : cells ≠ []) :
    Shape column none ⟨column ++ " " ++ o.name ++ " (" ++ Query.marks cells.length ++ ")", cells⟩
  | all (cells : List Cell) (hcells : cells ≠ []) :
    Shape column none
      ⟨" AND ".intercalate (List.replicate cells.length (column ++ " = ?")), cells⟩
  | comparedRaw (o : Operator) {raw : RawClause} (haccepted : raw.Accepted) :
    Shape column (some raw) (.text (column ++ " " ++ o.name ++ " ") ++ raw.query)
  | amongRaw (o : Operator) {raw : RawClause} (haccepted : raw.Accepted) :
    Shape column (some raw) (.text (column ++ " " ++ o.name ++ " (") ++ raw.query ++ .text ")")

/-- A question about the rows of a subquery. -/
def rowsOf (o : Operator) (raw : RawClause) : Query := .text (o.name ++ " (") ++ raw.query ++ .text ")"

/-! ## There are no other shapes -/

namespace Context

variable {x : Context} {o : Operator} {operator : String} {operand : Option Operand} {q : Query}

/-- Only a value makes a list of cells. -/
theorem exists_value_of_listCells {cells : List Cell}
    (h : x.listCells operator operand = .ok cells) : ∃ v, operand = some (.value v) := by
  match operand with
  | none => cases h
  | some (.raw _) => cases h
  | some (.value v) => exact ⟨v, rfl⟩

theorem exists_value_of_someCells {cells : List Cell}
    (h : x.someCells operator operand = .ok cells) :
    (∃ v, operand = some (.value v)) ∧ cells ≠ [] := by
  obtain ⟨found, hfound, h⟩ := bind_eq_ok_iff.mp h
  split at h
  · cases h
  · rename_i hempty
    cases h
    refine ⟨exists_value_of_listCells hfound, fun hnil => hempty ?_⟩
    rw [hnil]
    rfl

theorem shape_between (h : x.between o.name operand = .ok q) :
    (∃ v, operand = some (.value v)) ∧ Shape x.column none q := by
  obtain ⟨cells, hcells, h⟩ := bind_eq_ok_iff.mp h
  refine ⟨exists_value_of_listCells hcells, ?_⟩
  split at h
  · rename_i hlength
    obtain ⟨low, high, rfl⟩ := List.length_eq_two.mp hlength
    cases h
    exact .between o low high
  · cases h

/-- What an operator makes of its operand: there is a raw one, or a value. -/
def Written (x : Context) (operand : Option Operand) (q : Query) : Prop :=
  (∃ raw, operand = some (.raw raw) ∧ Shape x.column (some raw) q) ∨
    ((∃ v, operand = some (.value v)) ∧ Shape x.column none q)

theorem written_member (h : x.member o.name operand = .ok q) : x.Written operand q := by
  unfold member at h
  split at h
  · rename_i raw
    obtain ⟨_, hcheck, h⟩ := bind_eq_ok_iff.mp h
    cases h
    exact .inl ⟨raw, rfl, .amongRaw o (RawClause.check_eq_ok_iff.mp hcheck)⟩
  · obtain ⟨cells, hcells, h⟩ := bind_eq_ok_iff.mp h
    obtain ⟨hvalue, hne⟩ := exists_value_of_someCells hcells
    cases h
    exact .inr ⟨hvalue, .among o cells hne⟩

theorem written_all (h : x.all operator operand = .ok q) : x.Written operand q := by
  unfold all at h
  split at h
  · cases h
  · obtain ⟨cells, hcells, h⟩ := bind_eq_ok_iff.mp h
    obtain ⟨hvalue, hne⟩ := exists_value_of_someCells hcells
    cases h
    exact .inr ⟨hvalue, .all cells hne⟩

theorem written_single (h : x.single o.name operand = .ok q) : x.Written operand q := by
  unfold single at h
  split at h
  · cases h
  · rename_i raw
    obtain ⟨_, hcheck, h⟩ := bind_eq_ok_iff.mp h
    cases h
    exact .inl ⟨raw, rfl, .comparedRaw o (RawClause.check_eq_ok_iff.mp hcheck)⟩
  · cases h
  · rename_i v _
    obtain ⟨cell, -, h⟩ := bind_eq_ok_iff.mp h
    cases h
    exact .inr ⟨⟨v, rfl⟩, .compared o cell⟩

theorem exists_raw_of_rows (h : x.rows o.name operand = .ok q) :
    ∃ raw, operand = some (.raw raw) ∧ raw.Accepted ∧ q = rowsOf o raw := by
  unfold rows at h
  split at h
  · rename_i raw
    obtain ⟨_, hcheck, h⟩ := bind_eq_ok_iff.mp h
    cases h
    exact ⟨raw, rfl, RawClause.check_eq_ok_iff.mp hcheck, rfl⟩
  · cases h

end Context

/-- The condition of an operator that asks about a column has one of the shapes. -/
theorem shape_of_condition {x : Context} {o : Operator} {operand : Option Operand} {q : Query}
    (habout : isAboutRows o = false) (h : condition x o operand = .ok q) :
    Shape x.column (writtenRaw? o operand) q := by
  have ofWritten : x.Written operand q → (∀ raw, writtenRaw? o (some (.raw raw)) = some raw) →
      (∀ v, writtenRaw? o (some (.value v)) = none) → Shape x.column (writtenRaw? o operand) q := by
    rintro (⟨raw, rfl, hshape⟩ | ⟨⟨v, rfl⟩, hshape⟩) hraw hvalue
    · rwa [hraw]
    · rwa [hvalue]
  cases o with
  | hasRows => cases habout
  | hasNoRows => cases habout
  | isNull =>
    cases h
    exact .isNull
  | notNull =>
    cases h
    exact .notNull
  | between =>
    obtain ⟨⟨v, rfl⟩, hshape⟩ := Context.shape_between (o := .between) h
    exact hshape
  | notBetween =>
    obtain ⟨⟨v, rfl⟩, hshape⟩ := Context.shape_between (o := .notBetween) h
    exact hshape
  | isIn => exact ofWritten (Context.written_member (o := .isIn) h) (fun _ => rfl) fun _ => rfl
  | any => exact ofWritten (Context.written_member (o := .isIn) h) (fun _ => rfl) fun _ => rfl
  | notIn => exact ofWritten (Context.written_member (o := .notIn) h) (fun _ => rfl) fun _ => rfl
  | all => exact ofWritten (Context.written_all h) (fun _ => rfl) fun _ => rfl
  | compare c =>
    exact ofWritten (Context.written_single (o := .compare c) h) (fun _ => rfl) fun _ => rfl
  | like => exact ofWritten (Context.written_single (o := .like) h) (fun _ => rfl) fun _ => rfl
  | notLike =>
    exact ofWritten (Context.written_single (o := .notLike) h) (fun _ => rfl) fun _ => rfl
  | regexp => exact ofWritten (Context.written_single (o := .regexp) h) (fun _ => rfl) fun _ => rfl

theorem exists_raw_of_condition {x : Context} {o : Operator} {operand : Option Operand} {q : Query}
    (habout : isAboutRows o = true) (h : condition x o operand = .ok q) :
    ∃ raw, writtenRaw? o operand = some raw ∧ raw.Accepted ∧ q = rowsOf o raw := by
  cases o with
  | hasRows =>
    obtain ⟨raw, rfl, hrows⟩ := Context.exists_raw_of_rows h
    exact ⟨raw, rfl, hrows⟩
  | hasNoRows =>
    obtain ⟨raw, rfl, hrows⟩ := Context.exists_raw_of_rows h
    exact ⟨raw, rfl, hrows⟩
  | _ => cases habout

/-! ## All shapes are aligned -/

theorem plain_of_isWord {s : String} (h : IsWord s) : Plain s := fun c hc =>
  Placeholder.isPlain_of_holds (by decide) (h.chars c hc)

theorem plain_name (o : Operator) : Plain o.name := by
  cases o with
  | compare c => cases c <;> decide
  | _ => decide

/-- A raw clause in a condition has been accepted. -/
theorem Shape.accepted {column : String} {raw : RawClause} {q : Query}
    (h : Shape column (some raw) q) : raw.Accepted := by
  cases h with
  | comparedRaw o haccepted => exact haccepted
  | amongRaw o haccepted => exact haccepted

/-- The condition of a clause is aligned if the raw operand in it, should there be one, leaves no
quote open. -/
theorem Shape.aligned {column : String} (hcolumn : Plain column) {raw? : Option RawClause}
    {q : Query} (h : Shape column raw? q) (hclosed : ∀ raw ∈ raw?, raw.Closed) : q.Aligned := by
  have hblank : Plain " " := by decide
  have hlead : ∀ o : Operator, Plain (column ++ " " ++ o.name) := fun o =>
    (hcolumn.append hblank).append (plain_name o)
  cases h with
  | isNull => exact Query.aligned_text (hcolumn.append (by decide))
  | notNull => exact Query.aligned_text (hcolumn.append (by decide))
  | compared o cell =>
    have hmark : (⟨" ?", [cell]⟩ : Query).Aligned := (Query.aligned_mark cell).prepend hblank
    exact hmark.prepend (hlead o)
  | between o low high =>
    have hlow : (⟨" ?", [low]⟩ : Query).Aligned := (Query.aligned_mark low).prepend hblank
    have hhigh : (⟨" AND ?", [high]⟩ : Query).Aligned :=
      (Query.aligned_mark high).prepend (by decide : Plain " AND ")
    exact (hlow.append hhigh).prepend (hlead o)
  | among o cells hcells =>
    have hopen := (hlead o).append (by decide : Plain " (")
    have hmarks := (Query.woven_marks cells).aligned_of_marks
    exact (hmarks.prepend hopen).postpend (by decide : Plain ")")
  | all cells hcells =>
    have h := Query.Woven.intercalate_marks (by decide : Plain " AND ")
      (fun _ => column ++ " = ") id cells fun _ _ => hcolumn.append (by decide)
    have hmark : column ++ " = " ++ "?" = column ++ " = ?" := String.append_assoc
    rw [hmark, List.map_const', List.map_id] at h
    exact h.aligned_of_marks
  | comparedRaw o haccepted =>
    refine (Query.aligned_text ((hlead o).append hblank)).append ?_
    exact RawClause.aligned_query haccepted (hclosed _ rfl)
  | amongRaw o haccepted =>
    have hraw := RawClause.aligned_query haccepted (hclosed _ rfl)
    have hopen := (hlead o).append (by decide : Plain " (")
    exact ((Query.aligned_text hopen).append hraw).append (Query.aligned_text (by decide))

theorem aligned_rowsOf (o : Operator) {raw : RawClause} (haccepted : raw.Accepted)
    (hclosed : raw.Closed) : (rowsOf o raw).Aligned := by
  have hopen := (plain_name o).append (by decide : Plain " (")
  have hraw := RawClause.aligned_query haccepted hclosed
  exact ((Query.aligned_text hopen).append hraw).append (Query.aligned_text (by decide))

end Clause

open Clause (Shape rowsOf writtenRaw?)

/-- **A clause that compiles asks about the rows of a subquery, or has one of the shapes on a column
of its table.** -/
theorem ColumnClause.exists_shape {r : Registry} {t : TableDefinition} {index : Nat}
    {c : ColumnClause} {q : Query} (h : c.compile r t index = .ok q) :
    ∃ o, Operator.parse? c.operator = some o ∧
      ((∃ raw, writtenRaw? o c.operand = some raw ∧ raw.Accepted ∧ q = rowsOf o raw) ∨
        ∃ d ∈ t.columns, Shape (lower d.name) (writtenRaw? o c.operand) q) := by
  unfold compile at h
  split at h
  · cases h
  · rename_i o ho
    refine ⟨o, ho, ?_⟩
    cases habout : Clause.isAboutRows o with
    | true =>
      simp only [habout, Bool.not_true, Bool.false_and, Bool.false_eq_true, if_false] at h
      exact .inl (Clause.exists_raw_of_condition habout h)
    | false =>
      cases hfound : t.column? (lower (Text.trim c.column)) with
      | none => simp [habout, hfound] at h
      | some d =>
        obtain ⟨hd, hname⟩ := TableDefinition.column?_lower hfound
        simp only [habout, hfound, Bool.not_false, Option.isNone_some, Bool.and_false,
          Bool.false_eq_true, if_false] at h
        have hshape := Clause.shape_of_condition habout h
        rw [hname] at hshape
        exact .inr ⟨d, hd, hshape⟩

end FilterStore
