import FilterStore.Proofs.Calendar.Order
import FilterStore.Proofs.Engine.RowQuery
import FilterStore.Proofs.Number.Exact
import FilterStore.Proofs.Query.Agreement
import FilterStore.Proofs.Value.Dates

/-!
# Filters on dates

The engine compares the cells that stand for dates, so a filter on a date is right only as far as
cells are in the order of their dates.  For seconds, for the engine's texts and for interchange
texts they are, within years of four digits (`DateForm.encodedOrder?_cell`).  What a notation leaves
out makes ties and no more (`DateForm.order_eq_or`).

Between a cell and a filter stands the column.  It converts what is stored in it, and in a
comparison it converts the bound cell, both by the affinity of its declared type, which need not be
the one that dates are written for.  A text of a date is no number and stays as it is, and a count
of seconds stays the same number in a column of integers, of doubles, where it is held exactly, or
of blobs.  But a column of texts holds the digits of the count, and digits are compared one by one:
nine of them come behind ten that start with a smaller one.  So queries find and count the rows whose
dates are asked for in all columns but those of texts with counts of seconds in them
(`DateForm.ordersDates_iff`).
-/

namespace FilterStore

open Calendar (Instant Plain Spells bytesOf textOrder)
open Sql (BinaryOp Collation Expr Select)
open Text (lower)

/-! ## Plain texts under collations -/

/-- Plain texts of one length are compared character by character under every collation, if it does
not matter to their order whether letters are small. -/
theorem Sql.Collation.order_plain (collation : Collation) {cs ds : List Char} (hc : Plain cs)
    (hd : Plain ds) (length : cs.length = ds.length)
    (lowered : textOrder (cs.map Char.toLower) (ds.map Char.toLower) = textOrder cs ds) :
    collation.order (String.ofList cs) (String.ofList ds) = textOrder cs ds := by
  have size : (String.ofList cs).utf8ByteSize = (String.ofList ds).utf8ByteSize := by
    rw [Calendar.utf8ByteSize_ofList hc.ascii, Calendar.utf8ByteSize_ofList hd.ascii, length]
  have tie : collation.tie (String.ofList cs) = collation.tie (String.ofList ds) := by
    cases collation with
    | noCase => exact size
    | binary | trimmed => rfl
  have whole {cs : List Char} (h : Plain cs) : cs.takeWhile (· != Char.ofNat 0) = cs :=
    List.takeWhile_eq_self_iff.mpr fun c hc => bne_iff_ne.mpr (h.nonzero c hc)
  have solid {cs : List Char} (h : Plain cs) :
      (cs.reverse.dropWhile (· == ' ')).reverse = cs := by
    cases last : cs.reverse with
    | nil => rw [List.reverse_eq_nil_iff.mp last]; rfl
    | cons c rest =>
      have behind : c ≠ ' ' := h.ends c (by rw [← List.head?_reverse, last]; rfl)
      rw [List.dropWhile_cons_of_neg (by simpa using behind), ← last, List.reverse_reverse]
  rw [Collation.order, Nat.compare_eq_eq.mpr tie, Ordering.then_eq]
  cases collation with
  | binary => simp only [Collation.folded, String.toList_ofList, textOrder]
  | noCase =>
    simp only [Collation.folded, String.toList_ofList, whole hc, whole hd]
    exact lowered
  | trimmed =>
    simp only [Collation.folded, String.toList_ofList, solid hc, solid hd, textOrder]

/-! ## Texts that are no numbers -/

namespace Engine

/-- A number ends in front of a hyphen, and a hyphen is no blank. -/
theorem numberOfText?_hyphen {n : Nat} {ds : List Char} (h : Spells n ds) (rest : List Char) :
    numberOfText? (String.ofList (ds ++ '-' :: rest)) = none := by
  have start : (ds ++ '-' :: rest).dropWhile isBlank = ds ++ '-' :: rest := by
    obtain ⟨c, cs, rfl⟩ := List.exists_cons_of_ne_nil h.ne_nil
    have digit := Char.isDigit_iff_toNat.mp (h.digits c List.mem_cons_self)
    have zero : '0'.toNat = 48 := rfl
    have solid : isBlank c = false := by
      simp only [isBlank, Bool.or_eq_false_iff, beq_eq_false_iff_ne, Bool.and_eq_false_iff,
        decide_eq_false_iff_not]
      omega
    rw [List.cons_append, List.dropWhile_cons_of_neg (by simp [solid])]
  have hyphen : isBlank '-' = false := rfl
  simp only [numberOfText?, leadingNumber?, String.toList_ofList, start, readSign_append h,
    readNumeral_hyphen h, Option.map_some, List.all_cons, hyphen, Bool.false_and,
    Bool.false_eq_true, if_false]

/-- Texts that are no numbers are compared as they are. -/
theorem compareOperands_text {s t : String} (hs : numberOfText? s = none)
    (ht : numberOfText? t = none) (collation : Collation) (l : Leaning) :
    compareOperands collation l (.text s) (.text t) = some (collation.order s t) := by
  cases l with
  | asNumbers =>
    simp only [compareOperands, leant, numbered, hs, ht, Option.getD_none]
    rfl
  | asTexts | asTheyAre => rfl

/-- Integers are compared as they are. -/
theorem compareOperands_integer (m n : Int64) (collation : Collation) (l : Leaning) :
    compareOperands collation l (.integer m) (.integer n) = some (compare m.toInt n.toInt) := by
  cases l <;> rfl

/-- A double that holds an integer is compared as that integer. -/
theorem compareOperands_real {x : Float} {m : Int} (h : Number.Holds x m) (n : Int64)
    (collation : Collation) (l : Leaning) :
    compareOperands collation l (.real x) (.integer n) = some (compare m n.toInt) := by
  have compared : compareOperands collation l (.real x) (.integer n) =
      some (compareMixed n.toInt x).swap := by
    cases l <;> rfl
  rw [compared, h.compareMixed, ← Std.OrientedOrd.eq_swap]

theorem eval_parameter {w : World} {n : Nat} {c : Cell} (bound : w.parameters[n]? = some c)
    (frames : List Frame) (place : Nat) :
    eval w .value frames [] (.parameter (n + 1) place) = .ok c := by
  have value : eval w .value frames [] (.parameter (n + 1) place) =
    .ok (w.parameters.getD n .null) := rfl
  rw [value, List.getD_eq_getElem?_getD, bound, Option.getD_some]

end Engine

/-! ## Notations -/

/-- The order of encoded values: integers as integers, texts byte by byte. -/
def Cell.encodedOrder? : Cell → Cell → Option Ordering
  | .integer m, .integer n => some (compare m.toInt n.toInt)
  | .text s, .text t => some (compare (bytesOf s) (bytesOf t))
  | _, _ => none

/-- A notation of dates in cells. -/
inductive DateForm
  /-- The number of the second. -/
  | seconds
  /-- The layout of the engine's date functions, down to the second. -/
  | engineText
  /-- The layout of RFC 3339, down to the millisecond. -/
  | interchange
  deriving DecidableEq, Repr

namespace DateForm

/-- The affinity of the timestamp type under which dates are written in a notation. -/
def affinity : DateForm → Affinity
  | seconds => .integer
  | engineText => .text
  | interchange => .blob

/-- The cell of a date. -/
def cell (form : DateForm) (d : Instant) : Cell := Value.encodeDate d form.affinity

/-- What a notation shows of a date.  A count of seconds does not show that a second is a leap
second. -/
def shown : DateForm → Instant → Instant
  | seconds, d => d.truncate (2 * Calendar.second)
  | engineText, d => d.whole
  | interchange, d => d.wholeMillis

/-- The order of dates as far as a notation shows it. -/
def order (form : DateForm) (d e : Instant) : Ordering := (form.shown d).order (form.shown e)

/-- What a notation leaves out makes ties, and does not turn dates around. -/
theorem order_eq_or (form : DateForm) (d e : Instant) :
    form.order d e = d.order e ∨ form.shown d = form.shown e := by
  cases form <;> exact d.order_truncate e _

/-! ### Counts of seconds -/

section Seconds

variable (d e : Instant)

theorem toInt_seconds : (Int64.ofInt d.seconds).toInt = d.seconds := by
  have first := d.first_le
  have last := d.le_last
  simp only [Calendar.firstSecond, Calendar.lastSecond] at first last
  exact Int64.toInt_ofInt_of_le (by omega) (by omega)

theorem order_seconds : seconds.order d e = compare d.seconds e.seconds := by
  have none (d : Instant) : d.nanos / (2 * Calendar.second) = 0 := Nat.div_eq_of_lt d.nanos_lt
  simp only [order, shown, Instant.order, Instant.truncate, none, Nat.zero_mul]
  exact Ordering.then_eq

/-- A count of seconds is held by a double. -/
theorem holds_seconds : Number.Holds (Float.ofInt d.seconds) d.seconds := by
  have first := d.first_le
  have last := d.le_last
  simp only [Calendar.firstSecond, Calendar.lastSecond] at first last
  exact Number.holds_ofInt (by omega)

end Seconds

/-! ### Texts -/

/-- Texts that are in an order whatever the engine does before it compares them. -/
structure Ordered (cs ds : List Char) (o : Ordering) : Prop where
  left : Plain cs
  right : Plain ds
  length : cs.length = ds.length
  order : textOrder cs ds = o
  lowered : textOrder (cs.map Char.toLower) (ds.map Char.toLower) = o
  leftText : Engine.numberOfText? (String.ofList cs) = none
  rightText : Engine.numberOfText? (String.ofList ds) = none

/-- What is written behind a year of four digits is no number. -/
theorem numberOfText?_stamp {d : Instant} (hd : d.HasFourDigits) (separator : Char)
    (rest : List Char) :
    Engine.numberOfText? (String.ofList (d.stamp separator ++ rest)) = none := by
  obtain ⟨n, ds, behind, spells, stamp⟩ := d.exists_stamp_eq hd separator
  rw [stamp, List.append_assoc]
  exact Engine.numberOfText?_hyphen spells _

section FourDigits

variable {d e : Instant} (hd : d.HasFourDigits) (he : e.HasFourDigits)

include hd he

theorem ordered_stamp : Ordered (d.stamp ' ') (e.stamp ' ') (engineText.order d e) := by
  refine ⟨Instant.plain_stamp hd, Instant.plain_stamp he, ?_, Instant.textOrder_whole hd he ' ',
    ?_, ?_, ?_⟩
  · rw [Instant.length_stamp hd, Instant.length_stamp he]
  · rw [Instant.map_toLower_stamp hd, Instant.map_toLower_stamp he]
    exact Instant.textOrder_whole hd he _
  · have noNumber := numberOfText?_stamp hd ' ' []
    rwa [List.append_nil] at noNumber
  · have noNumber := numberOfText?_stamp he ' ' []
    rwa [List.append_nil] at noNumber

theorem ordered_lettered :
    Ordered (d.lettered 'T' 'Z') (e.lettered 'T' 'Z') (interchange.order d e) := by
  refine ⟨Instant.plain_lettered hd, Instant.plain_lettered he, ?_,
    Instant.textOrder_wholeMillis hd he 'T' 'Z', ?_, numberOfText?_stamp hd 'T' _,
    numberOfText?_stamp he 'T' _⟩
  · simp only [Instant.lettered, List.length_append, List.length_cons, List.length_nil,
      Instant.length_stamp hd, Instant.length_stamp he, Instant.length_millis]
  · rw [Instant.map_toLower_lettered hd, Instant.map_toLower_lettered he]
    exact Instant.textOrder_wholeMillis hd he _ _

/-- The texts of dates are in the order of the dates. -/
theorem exists_ordered {form : DateForm} (text : form ≠ .seconds) :
    ∃ cs ds, form.cell d = .text (String.ofList cs) ∧ form.cell e = .text (String.ofList ds) ∧
      Ordered cs ds (form.order d e) := by
  cases form with
  | seconds => exact absurd rfl text
  | engineText => exact ⟨_, _, rfl, rfl, ordered_stamp hd he⟩
  | interchange =>
    have written (d : Instant) :
        interchange.cell d = .text (String.ofList (d.lettered 'T' 'Z')) := by
      show Cell.text d.interchange = _
      rw [← String.ofList_toList (s := d.interchange), d.toList_interchange]
      rfl
    exact ⟨_, _, written d, written e, ordered_lettered hd he⟩

/-- **Encoded dates are in the order of the dates, as far as the notation shows it.** -/
theorem encodedOrder?_cell (form : DateForm) :
    (form.cell d).encodedOrder? (form.cell e) = some (form.order d e) := by
  by_cases text : form = .seconds
  · subst text
    rw [order_seconds]
    simp only [cell, affinity, Value.encodeDate, Cell.encodedOrder?, toInt_seconds]
  · obtain ⟨cs, ds, first, second, ordered⟩ := exists_ordered hd he text
    rw [first, second, Cell.encodedOrder?, Calendar.bytesOf_ofList ordered.left.ascii,
      Calendar.bytesOf_ofList ordered.right.ascii]
    exact congrArg some ordered.order

/-- **A stored date is compared with a bound one as the dates are**, unless it is a count of seconds
that is stored as a text. -/
theorem compareOperands_stored (form : DateForm) (column : Affinity)
    (able : ¬ (form = .seconds ∧ column = .text)) (collation : Collation) (l : Engine.Leaning) :
    Engine.compareOperands collation l (Engine.stored column (form.cell d)) (form.cell e) =
      some (form.order d e) := by
  by_cases text : form = .seconds
  · subst text
    have bound : seconds.cell e = .integer (Int64.ofInt e.seconds) := rfl
    rw [order_seconds, bound]
    cases column with
    | text => exact absurd ⟨rfl, rfl⟩ able
    | integer | numeric | blob =>
      refine (Engine.compareOperands_integer (Int64.ofInt d.seconds) _ collation l).trans ?_
      rw [toInt_seconds, toInt_seconds]
    | real =>
      have held := holds_seconds d
      rw [← toInt_seconds d] at held
      refine (Engine.compareOperands_real held _ collation l).trans ?_
      rw [toInt_seconds, toInt_seconds]
  · obtain ⟨cs, ds, first, second, ordered⟩ := exists_ordered hd he text
    have kept : Engine.stored column (.text (String.ofList cs)) = .text (String.ofList cs) := by
      cases column <;>
        simp only [Engine.stored, Engine.numbered, ordered.leftText, Option.getD_none,
          Engine.compacted, Engine.widened, Engine.spelled]
    rw [first, second, kept, Engine.compareOperands_text ordered.leftText ordered.rightText,
      collation.order_plain ordered.left ordered.right ordered.length
        (ordered.lowered.trans ordered.order.symm), ordered.order]

end FourDigits

/-! ## Filters -/

/-- A comparison of a filter that asks for an order: as it is written, as it is read, and the orders
that it lets pass. -/
structure OrderTest where
  written : Comparison
  op : BinaryOp
  passes : Ordering → Bool

/-- The comparisons that ask for an order. -/
def orderTests : List OrderTest :=
  [⟨.lt, .less, (· == .lt)⟩, ⟨.le, .lessEqual, (· != .gt)⟩, ⟨.gt, .greater, (· == .gt)⟩,
    ⟨.ge, .greaterEqual, (· != .lt)⟩]

/-- What statements bind for a temporal column are dates in a notation: in records, in comparisons
and as the bounds of a range. -/
structure Binds (form : DateForm) (r : Registry) (t : TableDefinition) (c : ColumnDefinition) :
    Prop where
  written : ∀ d, r.writtenCell c (.date d) = .ok (form.cell d)
  compared : ∀ name, t.column? name = some c → ∀ test ∈ orderTests, ∀ operator,
    Operator.parse? operator = some (.compare test.written) → ∀ d index connective,
      ColumnClause.compile r t index ⟨name, operator, some (.value (.date d)), connective⟩ =
        .ok ⟨lower c.name ++ " " ++ test.written.sql ++ " ?", [form.cell d]⟩
  between : ∀ name, t.column? name = some c → ∀ operator,
    Operator.parse? operator = some .between → ∀ d e index connective,
      ColumnClause.compile r t index
          ⟨name, operator, some (.value (.list [.date d, .date e])), connective⟩ =
        .ok ⟨lower c.name ++ " BETWEEN ? AND ?", [form.cell d, form.cell e]⟩

theorem binds_of_temporal {form : DateForm} {r : Registry} (hr : r.Tidy)
    (stamped : r.timestampAffinity = form.affinity) {t : TableDefinition} (ht : t ∈ r.tables)
    {c : ColumnDefinition} (temporal : c.temporal = true) : form.Binds r t c := by
  constructor
  · intro d
    simp only [Registry.writtenCell, Registry.affinityOf, temporal, if_true, stamped,
      Value.encodeFor, cell]
  · intro name found test _ operator read d index connective
    rw [hr.compile_eq_condition ht found read, if_pos temporal, stamped]
    rfl
  · intro name found operator read d e index connective
    have text : (" " ++ "BETWEEN" ++ " ? AND ?" : String) = " BETWEEN ? AND ?" := rfl
    rw [hr.compile_eq_condition ht found read, if_pos temporal, stamped, ← text,
      ← String.append_assoc, ← String.append_assoc]
    rfl

/-- The rows of a table have dates in a column: what the column stores of the cells that are written
for the dates. -/
structure Stores (form : DateForm) (t : Engine.Table) (c : Sql.Column)
    (date : Engine.Row → Instant) : Prop where
  proper : t.Proper
  mem : c ∈ t.columns
  cell : ∀ row ∈ t.rows, t.cellNamed row c.name = Engine.stored c.affinity (form.cell (date row))
  four : ∀ row ∈ t.rows, (date row).HasFourDigits

/-- The name of a column in a filter. -/
def named (c : Sql.Column) (quoted : Bool) (offset : Nat) : Expr :=
  .column ⟨none, c.name, quoted, offset⟩

/-- What a filter on a column asks of a date: how it is ordered to a date that is bound, or whether
it is between two of them. -/
inductive Asks (form : DateForm) (w : Engine.World) (c : Sql.Column) :
    Expr → (Instant → Bool) → Prop
  | compared (test : OrderTest) (known : test ∈ orderTests) {n : Nat} {e : Instant}
      (bound : w.parameters[n]? = some (form.cell e)) (four : e.HasFourDigits) (quoted : Bool)
      (offset place : Nat) :
      Asks form w c (.binary test.op (named c quoted offset) (.parameter (n + 1) place))
        fun d => test.passes (form.order d e)
  | between {m n : Nat} {e f : Instant} (low : w.parameters[m]? = some (form.cell e))
      (high : w.parameters[n]? = some (form.cell f)) (fourLow : e.HasFourDigits)
      (fourHigh : f.HasFourDigits) (quoted : Bool) (offset placeLow placeHigh : Nat) :
      Asks form w c (.between (named c quoted offset) (.parameter (m + 1) placeLow)
        (.parameter (n + 1) placeHigh)) fun d => form.order d e != .lt && form.order d f != .gt

/-- The query for the rows of a table that a filter lets pass. -/
def rowsWhere (table : String) (filter : Expr) : Select :=
  Sql.namedSelect false [.all none] (some ⟨table, table⟩) filter [] Sql.always [] Sql.unlimited
    Sql.noOffset

/-- The query for their number. -/
def countWhere (table : String) (name : Sql.FunctionName) (heading : String) (filter : Expr) :
    Select :=
  Sql.namedSelect false [.value (.countRows name) heading false] (some ⟨table, table⟩) filter []
    Sql.always [] Sql.unlimited Sql.noOffset

/-- A filter sees the dates of a table: it holds in a row, whenever its turn to be looked at comes,
exactly if the row's date is asked for, and just these rows are found and counted. -/
structure Sees (w : Engine.World) (t : Engine.Table) (filter : Expr) (asked : Engine.Row → Bool) :
    Prop where
  holds : ∀ row ∈ t.rows, ∀ outer demand,
    Engine.eval w demand (t.frame row :: outer) [] filter =
      .ok (Value.flag (demand.passes filter || asked row))
  found : ∀ sought, w.relation t.name = .ok { t.relation with sought := sought } →
    Engine.queryRows w [] false (rowsWhere t.name filter) =
      .ok ((t.rows.filter asked).map Engine.Row.cells)
  counted : ∀ sought, w.relation t.name = .ok { t.relation with sought := sought } →
    ∀ name heading, Engine.queryRows w [] false (countWhere t.name name heading filter) =
      .ok [[.integer (Int64.ofNat (t.rows.countP asked))]]

/-- **Filters on a column of an affinity see dates in their order.**  Cells are encoded in the order
of the dates, in which there are ties and nothing is turned around.  Filters on temporal columns
bind these cells.  And a filter finds exactly the rows of whose date and the dates that are bound it
holds. -/
structure OrdersDates (form : DateForm) (column : Affinity) : Prop where
  encoded : ∀ d e : Instant, d.HasFourDigits → e.HasFourDigits →
    (form.cell d).encodedOrder? (form.cell e) = some (form.order d e)
  tied : ∀ d e : Instant, form.order d e = d.order e ∨ form.shown d = form.shown e
  bound : ∀ r : Registry, r.Reachable → r.timestampAffinity = form.affinity → ∀ t ∈ r.tables,
    ∀ c : ColumnDefinition, c.temporal = true → form.Binds r t c
  sees : ∀ t c date, form.Stores t c date → c.affinity = column → ∀ w filter asked,
    form.Asks w c filter asked → Sees w t filter fun row => asked (date row)

section Stored

open Engine (eval)

variable {form : DateForm} {t : Engine.Table} {c : Sql.Column} {date : Engine.Row → Instant}
  (h : form.Stores t c date) {w : Engine.World}

include h

theorem Stores.eval_named {row : Engine.Row} (hrow : row ∈ t.rows) (outer : List Engine.Frame)
    (quoted : Bool) (offset : Nat) :
    eval w .value (t.frame row :: outer) [] (named c quoted offset) =
      .ok (Engine.stored c.affinity (form.cell (date row))) := by
  have value : eval w .value (t.frame row :: outer) [] (named c quoted offset) =
      .ok (t.cellNamed row c.name) :=
    h.proper.eval_column rfl rfl (List.mem_map_of_mem h.mem) row w quoted offset outer
  rw [value, h.cell row hrow]

theorem Stores.isApart_named {quoted : Bool} {offset : Nat} {e : Expr}
    (part : named c quoted offset ∈ e.parts true) :
    Engine.isApart [t.relation.shape t.name] e = false := by
  have leads : (Engine.target? [t.relation.shape t.name] ⟨none, c.name, quoted, offset⟩).isSome :=
    h.proper.target?_isSome rfl rfl (List.mem_map_of_mem h.mem) quoted offset []
  refine List.all_eq_false.mpr ⟨_, part, ?_⟩
  simp only [named, Option.isNone_eq_false_iff.mpr leads, Bool.false_eq_true, not_false_eq_true]

variable {filter : Expr} {asked : Instant → Bool} (asks : form.Asks w c filter asked)
  (able : ¬ (form = .seconds ∧ c.affinity = .text))

include asks

theorem Stores.isApart_filter : Engine.isApart [t.relation.shape t.name] filter = false := by
  cases asks with
  | compared => exact h.isApart_named (List.mem_cons_of_mem _ List.mem_cons_self)
  | between => exact h.isApart_named (List.mem_cons_of_mem _ List.mem_cons_self)

include able

/-- **A filter holds in a row exactly if the date in the row is asked for.** -/
theorem Stores.eval_filter {row : Engine.Row} (hrow : row ∈ t.rows) (outer : List Engine.Frame)
    (demand : Engine.Demand) :
    eval w demand (t.frame row :: outer) [] filter =
      .ok (Value.flag (demand.passes filter || asked (date row))) := by
  have four := h.four row hrow
  cases passed : demand.passes filter with
  | true => exact Engine.eval_of_passes passed _ _
  | false =>
    unfold eval
    rw [if_neg (by rw [passed]; exact Bool.false_ne_true)]
    cases asks with
    | @compared test known n e bound fourE quoted offset place =>
      have left := h.eval_named (w := w) hrow outer quoted offset
      have right := Engine.eval_parameter bound (t.frame row :: outer) place
      have order := compareOperands_stored four fourE form c.affinity able
      simp only [orderTests, List.mem_cons, List.not_mem_nil, or_false] at known
      -- whatever is wanted of a condition, a comparison is looked at as a value
      rcases known with rfl | rfl | rfl | rfl <;> cases demand <;>
        simp only [left, right, ok_bind, Engine.applyTo, Engine.applyBinary, order,
          Option.map_some, Engine.ofTruth, Bool.false_or]
    | @between m n e f low high fourE fourF quoted offset placeLow placeHigh =>
      have left := h.eval_named (w := w) hrow outer quoted offset
      have lower := Engine.eval_parameter low (t.frame row :: outer) placeLow
      have upper := Engine.eval_parameter high (t.frame row :: outer) placeHigh
      have above := compareOperands_stored four fourE form c.affinity able
      have below := compareOperands_stored four fourF form c.affinity able
      have both (a b : Bool) : Engine.conjunction (some a) (some b) = some (a && b) := by
        cases a <;> cases b <;> rfl
      simp only [left, lower, upper, ok_bind, Engine.compareTo, above, below, Option.map_some,
        both, Engine.ofTruth, Bool.false_or]

theorem Stores.decides : Engine.Decides w (t.relation.shape t.name) t.rows filter
    fun row => asked (date row) where
  single := by
    cases asks with
    | compared test known =>
      simp only [orderTests, List.mem_cons, List.not_mem_nil, or_false] at known
      rcases known with rfl | rfl | rfl | rfl <;> exact fun _ => rfl
    | between => exact fun _ => rfl
  looks := h.isApart_filter asks
  holds row hrow outer demand := h.eval_filter asks able hrow outer demand

theorem Stores.sees : Sees w t filter fun row => asked (date row) where
  holds row hrow := h.eval_filter asks able hrow
  found sought relation := by
    have picks := (h.decides asks able).picks
    have query : ∃ guide, rowsWhere t.name filter = .mk false [.all none] (some ⟨t.name, t.name⟩)
        filter [] Sql.always [] guide Sql.unlimited Sql.noOffset := by
      cases asks <;> exact ⟨_, rfl⟩
    obtain ⟨guide, query⟩ := query
    have projected : ∀ row ∈ t.rows,
        Engine.project w [t.frame row] [] [.all none] = .ok row.cells := fun row _ => by
      rw [Engine.project]
      exact congrArg Except.ok (List.append_nil _)
    rw [query]
    exact Eq.trans (Engine.queryRows_plain relation (picks _) rfl projected) rfl
  counted sought relation name heading := by
    have picks := (h.decides asks able).picks
    have query : countWhere t.name name heading filter =
        .mk false [.value (.countRows name) heading false] (some ⟨t.name, t.name⟩) filter []
          Sql.always [] (.literal .null) Sql.unlimited Sql.noOffset := by
      cases asks <;> rfl
    rw [query]
    exact Eq.trans (Engine.queryRows_count relation (picks _) name heading false) rfl

end Stored

/-! ## Counts of seconds in columns of texts -/

/-- Ten digits of seconds are reached on 9 September 2001. -/
def earlier : Instant := (Instant.ofUnix? 999999999 0).get (by decide)

def later : Instant := (Instant.ofUnix? 1000000000 0).get (by decide)

/-- A column of texts. -/
def createdColumn : Sql.Column where
  name := "created"
  declaredType := "TEXT"
  notNull := false
  onNull := none
  collation := .binary
  default := none

/-- A visit at the earlier second, as the column stores it. -/
def earlyVisit : Engine.Row := ⟨1, [.text "999999999"]⟩

/-- A table of visits that has this column alone, with the earlier visit. -/
def visitTable : Engine.Table where
  name := "visit"
  parts := { columns := [createdColumn], keys := [], references := [], checks := [], flaw := none }
  text := "CREATE TABLE visit (created TEXT"
  rest := ")"
  rows := [earlyVisit]

theorem four_earlier : earlier.HasFourDigits := ⟨by decide, by decide⟩

theorem four_later : later.HasFourDigits := ⟨by decide, by decide⟩

theorem stores_earlier : seconds.Stores visitTable createdColumn fun _ => earlier where
  proper := ⟨List.cons_ne_nil _ _, List.pairwise_singleton _ _, by decide, by decide⟩
  mem := List.mem_cons_self
  cell row hrow := by
    cases List.mem_singleton.mp hrow
    rfl
  four _ _ := four_earlier

/-- As digits the earlier second comes behind the later one. -/
theorem not_ordersDates_seconds_text : ¬ seconds.OrdersDates .text := by
  intro ordered
  let world : Engine.World :=
    ⟨fun _ => .ok visitTable.relation, later, [.integer 1000000000], .statement⟩
  have asks : seconds.Asks world createdColumn
      (.binary .less (named createdColumn false 0) (.parameter 1 0))
        fun d => seconds.order d later == .lt :=
    .compared (n := 0) ⟨.lt, .less, (· == .lt)⟩ List.mem_cons_self rfl four_later false 0 0
  have sees := ordered.sees _ _ _ stores_earlier rfl _ _ _ asks
  have holds := sees.holds earlyVisit List.mem_cons_self [] .value
  have missed : Engine.eval world .value [visitTable.frame earlyVisit] []
      (.binary .less (named createdColumn false 0) (.parameter 1 0)) = .ok (Value.flag false) := rfl
  have order : seconds.order earlier later = .lt := by decide
  rw [order] at holds
  cases missed.symm.trans holds

/-- **Filters see dates in their order in every column, but for counts of seconds in a column of
texts.** -/
theorem ordersDates_iff (form : DateForm) (column : Affinity) :
    form.OrdersDates column ↔ ¬ (form = .seconds ∧ column = .text) := by
  constructor
  · rintro ordered ⟨rfl, rfl⟩
    exact not_ordersDates_seconds_text ordered
  · intro able
    refine ⟨fun d e hd he => encodedOrder?_cell hd he form, form.order_eq_or, ?_, ?_⟩
    · intro r hr stamped t ht c temporal
      exact binds_of_temporal hr.consistent.toTidy stamped ht temporal
    · rintro t c date stores rfl w filter asked asks
      exact stores.sees asks able

/-! ### A filter that misses a date -/

/-- The registry that knows a table of visits, dated in a column that is declared one of texts. -/
def ofDatedVisits : Registry :=
  { Registry.empty .standard with
    tables := [⟨"visit", [⟨"created", "TEXT",
      "NOT NULL DEFAULT (CAST(strftime('%s', 'now') AS INTEGER))", true⟩], [], []⟩] }

theorem ofDatedVisits_reachable : ofDatedVisits.Reachable :=
  .mutate (.addTable "visit" [⟨"created", "TEXT", "", false⟩] []) (.empty .standard) rfl

/-- Inserts a visit at the earlier second, and counts the visits before the later second, up to it,
behind it, and from the earlier one up to it. -/
def countedVisits : Action (List Nat) := do
  for sql in ofDatedVisits.createStatements do
    Action.batch sql
  let session : Session := ⟨ofDatedVisits, [], false⟩
  let filter (operator : String) (v : Value) : Spec :=
    { Spec.empty with filter := [.column ⟨"created", operator, some (.value v), none⟩] }
  let _ ← session.insert "visit" ⟨[("created", .date earlier)]⟩
  [filter "<" (.date later), filter "<=" (.date later), filter ">" (.date later),
    filter "BETWEEN" (.list [.date earlier, .date later])].mapM (session.count "visit")

/-- The visit is not found before the later second, but behind it. -/
theorem not_ordersDates_visits :
    ofDatedVisits.Reachable ∧ ofDatedVisits.timestampAffinity = seconds.affinity ∧
      Affinity.ofType "TEXT" = .text ∧ earlier.order later = .lt ∧
        (countedVisits.run (.ofDatabase .empty later)).1.toOption = some [0, 0, 1, 0] ∧
          ¬ seconds.OrdersDates .text :=
  ⟨ofDatedVisits_reachable, by decide, by decide, by decide, by decide +kernel,
    not_ordersDates_seconds_text⟩

end DateForm

end FilterStore
