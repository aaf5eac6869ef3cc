import Mathlib.Data.List.Forall2
import FilterStore.Filter.Reader
import FilterStore.Proofs.Outcome
import FilterStore.Proofs.Value.Interchange

/-!
# Requests that are written and read

The parts of a request in JSON are told apart by what they look like.  An array is an opening
bracket or a clause by its first element, an operand is raw if it is an object with a text of SQL,
and a filter is one clause without its brackets if it does not start like an entry.  So what a part
is written as could be mistaken for another part.

`Spec.Form` is the shape that is documented for a request, part by part and without regard to what
else a part could be read as.  `Spec.Expressible` excludes the requests for which a mistake can
happen: a column that is a bracket, a connective after an operand that is missing, a value that
looks raw.  Of the values that are left a request holds only such as come from JSON.

An expressible request has a form, and is read from every one of its forms.  The proof goes through
the parts: what the readers look at in a part is fixed by its form, and the lists of parts are read
item by item, whatever the position the reader counts for its errors.
-/

namespace FilterStore

open Text (trim)

/-! ## The documented shape -/

/-- Parts are written as an array of their forms; without parts the member may be missing. -/
inductive Listed {α : Type} (form : α → Json → Prop) : List α → Option Json → Prop
  | missing : Listed form [] none
  | null : Listed form [] (some .null)
  | items {parts : List α} {items : List Json} (h : List.Forall₂ form parts items) :
    Listed form parts (some (.array items))

/-- A part that need not be there is written as its form, or the member may be missing. -/
inductive Given {α : Type} (form : α → Json → Prop) : Option α → Option Json → Prop
  | missing : Given form none none
  | null : Given form none (some .null)
  | given {part : α} {json : Json} (h : form part json) : Given form (some part) (some json)

/-- A connective is its name, in any case. -/
def Connective.Form (c : Connective) (json : Json) : Prop :=
  ∃ s, json = .string s ∧ Connective.parse? s = some c

/-- A raw clause is an object with the text and the cells. -/
structure RawClause.Form (r : RawClause) (json : Json) : Prop where
  sql : json.member? "sql" = some (.string r.sql)
  values : Listed (fun cell item => Cell.ofJson item = cell) r.values (json.member? "values")

/-- A value is the JSON it comes from. -/
inductive Operand.Form : Operand → Json → Prop
  | value {v : Value} {json : Json} (h : Value.ofJson json = v) : Form (.value v) json
  | raw {r : RawClause} {json : Json} (h : r.Form json) : Form (.raw r) json

/-- A clause is its column, its operator, its operand and its connective, as far as it has them. -/
inductive ColumnClause.Form : ColumnClause → List Json → Prop
  | elements {column operator : String} {operand : Option Operand} {connective : Option Connective}
      {third fourth : Option Json} (operandForm : Option.Rel Operand.Form operand third)
      (connectiveForm : Option.Rel Connective.Form connective fourth) :
    Form { column, operator, operand, connective }
      (.string column :: .string operator :: (third.toList ++ fourth.toList))

inductive Entry.Form : Entry → Json → Prop
  | opening : Form (.opening none) (.string "(")
  | joinedOpening {c : Connective} {json : Json} (h : c.Form json) :
    Form (.opening (some c)) (.array [.string "(", json])
  | closing : Form .closing (.string ")")
  | raw {r : RawClause} {json : Json} (h : r.Form json) : Form (.raw r) json
  | column {c : ColumnClause} {items : List Json} (h : c.Form items) :
    Form (.column c) (.array items)

/-- A filter is the array of its entries; one clause alone may stand without that array.  A raw
clause cannot, since it is an object and a filter has to be an array. -/
inductive Entry.FilterForm : List Entry → Option Json → Prop
  | entries {entries : List Entry} {json : Option Json} (h : Listed Entry.Form entries json) :
    FilterForm entries json
  | bare {c : ColumnClause} {items : List Json} (h : c.Form items) :
    FilterForm [.column c] (some (.array items))

inductive Selector.Form : Selector → Json → Prop
  | column (name : String) : Form (.column name) (.string name)
  | raw {r : RawClause} {json : Json} (h : r.Form json) : Form (.raw r) json

/-- A term of an order is a pair. -/
inductive OrderTerm.Form : OrderTerm → Json → Prop
  | pair {column direction : String} {d : Direction} (h : Direction.parse direction = d) :
    Form ⟨column, d⟩ (.array [.string column, .string direction])

inductive Limit.Form : Limit → Json → Prop
  | count (n : UInt64) : Form (.count n) (.number (.ofUInt64 n))
  | range (offset count : UInt64) :
    Form (.range offset count) (.array [.number (.ofUInt64 offset), .number (.ofUInt64 count)])

/-- A request is an object of its parts. -/
structure Spec.Form (spec : Spec) (json : Json) : Prop where
  isObject : ∃ members, json = .object members
  filter : Entry.FilterForm spec.filter (json.member? "filter")
  columns : Listed Selector.Form spec.columns (json.member? "columns")
  limit : Given Limit.Form spec.limit (json.member? "limit")
  order : Listed OrderTerm.Form spec.order (json.member? "order")
  connective : Given Connective.Form spec.connective (json.member? "operator")

/-! ## Requests that have a form -/

/-- All cells come from JSON. -/
def RawClause.Expressible (r : RawClause) : Prop :=
  ∀ cell ∈ r.values, ∃ json, Cell.ofJson json = cell

/-- A value comes from JSON and is no object that looks raw. -/
def Operand.Expressible : Operand → Prop
  | .value v => (∃ json, Value.ofJson json = v) ∧
      ∀ members, v = .object members → RawClause.isShape (.object members) = false
  | .raw r => r.Expressible

structure ColumnClause.Expressible (c : ColumnClause) : Prop where
  /-- The column does not trim to a bracket. -/
  column : Entry.isBracket c.column = false
  operand : ∀ operand ∈ c.operand, operand.Expressible
  /-- Without an operand there is no place for a connective. -/
  connective : c.operand = none → c.connective = none

def Entry.Expressible : Entry → Prop
  | .opening _ | .closing => True
  | .raw r => r.Expressible
  | .column c => c.Expressible

def Selector.Expressible : Selector → Prop
  | .column _ => True
  | .raw r => r.Expressible

structure Spec.Expressible (spec : Spec) : Prop where
  filter : ∀ entry ∈ spec.filter, entry.Expressible
  columns : ∀ selector ∈ spec.columns, selector.Expressible

/-! ## Writing -/

def Connective.toJson (c : Connective) : Json := .string c.name

def RawClause.toJson (r : RawClause) : Json :=
  .object [("sql", .string r.sql), ("values", .array (r.values.map Cell.toJson))]

def Operand.toJson : Operand → Json
  | .value v => v.toJson
  | .raw r => r.toJson

/-- The elements of a clause. -/
def ColumnClause.toItems (c : ColumnClause) : List Json :=
  .string c.column :: .string c.operator ::
    ((c.operand.map Operand.toJson).toList ++ (c.connective.map Connective.toJson).toList)

def Entry.toJson : Entry → Json
  | .opening none => .string "("
  | .opening (some c) => .array [.string "(", c.toJson]
  | .closing => .string ")"
  | .raw r => r.toJson
  | .column c => .array c.toItems

def Selector.toJson : Selector → Json
  | .column name => .string name
  | .raw r => r.toJson

def OrderTerm.toJson (t : OrderTerm) : Json := .array [.string t.column, .string t.direction.name]

def Limit.toJson : Limit → Json
  | .count n => .number (.ofUInt64 n)
  | .range offset n => .array [.number (.ofUInt64 offset), .number (.ofUInt64 n)]

namespace Spec

/-- A request around a filter that is written already. -/
def toJsonAround (spec : Spec) (filter : Json) : Json :=
  .object ([("filter", filter), ("columns", .array (spec.columns.map Selector.toJson)),
      ("order", .array (spec.order.map OrderTerm.toJson))] ++
    (spec.limit.map fun limit => ("limit", limit.toJson)).toList ++
    (spec.connective.map fun c => ("operator", c.toJson)).toList)

/-- A request with its filter as an array of entries. -/
def toJson (spec : Spec) : Json := spec.toJsonAround (.array (spec.filter.map Entry.toJson))

end Spec

/-! ## What is written has the documented shape -/

theorem Connective.parse?_name (c : Connective) : parse? c.name = some c := by
  cases c <;> decide +kernel

theorem Direction.parse_name (d : Direction) : parse d.name = d := by
  cases d <;> decide +kernel

theorem Connective.form_toJson (c : Connective) : c.Form c.toJson := ⟨c.name, rfl, c.parse?_name⟩

/-- Parts that are written one by one make a list of forms. -/
theorem forall₂_map {α : Type} {form : α → Json → Prop} {write : α → Json} {parts : List α}
    (h : ∀ part ∈ parts, form part (write part)) : List.Forall₂ form parts (parts.map write) := by
  rw [List.forall₂_map_right_iff, List.forall₂_same]
  exact h

namespace RawClause

theorem form_toJson {r : RawClause} (h : r.Expressible) : r.Form r.toJson where
  sql := rfl
  values := by
    refine .items (forall₂_map fun cell hcell => ?_)
    obtain ⟨json, rfl⟩ := h cell hcell
    exact Cell.ofJson_toJson (Cell.isFinite_ofJson json)

end RawClause

theorem Operand.form_toJson {operand : Operand} (h : operand.Expressible) :
    operand.Form operand.toJson := by
  cases operand with
  | value v =>
    obtain ⟨⟨json, rfl⟩, -⟩ := h
    exact .value (Value.ofJson_toJson_ofJson json)
  | raw r => exact .raw (RawClause.form_toJson h)

theorem ColumnClause.form_toItems {c : ColumnClause} (h : c.Expressible) : c.Form c.toItems := by
  obtain ⟨column, operator, operand, connective⟩ := c
  refine .elements ?_ ?_
  · cases operand with
    | none => exact .none
    | some operand => exact .some (Operand.form_toJson (h.operand operand rfl))
  · cases connective with
    | none => exact .none
    | some c => exact .some c.form_toJson

theorem Entry.form_toJson {entry : Entry} (h : entry.Expressible) : entry.Form entry.toJson := by
  cases entry with
  | opening connective =>
    cases connective with
    | none => exact .opening
    | some c => exact .joinedOpening c.form_toJson
  | closing => exact .closing
  | raw r => exact .raw (RawClause.form_toJson h)
  | column c => exact .column (ColumnClause.form_toItems h)

theorem Selector.form_toJson {selector : Selector} (h : selector.Expressible) :
    selector.Form selector.toJson := by
  cases selector with
  | column name => exact .column name
  | raw r => exact .raw (RawClause.form_toJson h)

theorem OrderTerm.form_toJson (t : OrderTerm) : t.Form t.toJson := .pair t.direction.parse_name

theorem Limit.form_toJson (limit : Limit) : limit.Form limit.toJson := by
  cases limit with
  | count n => exact .count n
  | range offset count => exact .range offset count

namespace Spec

theorem form_toJsonAround {spec : Spec} (h : spec.Expressible) {filter : Json}
    (hfilter : Entry.FilterForm spec.filter (some filter)) :
    spec.Form (spec.toJsonAround filter) := by
  obtain ⟨entries, columns, limit, connective, order⟩ := spec
  have hcolumns := Listed.items (forall₂_map fun s hs => Selector.form_toJson (h.columns s hs))
  have horder := Listed.items
    (forall₂_map fun (t : OrderTerm) (_ : t ∈ order) => t.form_toJson)
  refine ⟨⟨_, rfl⟩, hfilter, hcolumns, ?_, horder, ?_⟩
  · cases limit with
    | none => cases connective <;> exact .missing
    | some limit => exact .given limit.form_toJson
  · cases connective with
    | none => cases limit <;> exact .missing
    | some c => cases limit <;> exact .given c.form_toJson

end Spec

/-! ## Reading the parts -/

theorem Connective.Form.read {c : Connective} {json : Json} (h : c.Form json) :
    connectiveOf? json = some c := by
  obtain ⟨s, rfl, hs⟩ := h
  simpa only [connectiveOf?, Json.string?, Option.bind_some] using hs

namespace RawClause

variable {r : RawClause} {json : Json}

theorem Form.isShape (h : r.Form json) : RawClause.isShape json = true := by
  simp [RawClause.isShape, h.sql, Json.string?]

theorem Form.isObject (h : r.Form json) : ∃ members, json = .object members := by
  cases json with
  | object members => exact ⟨members, rfl⟩
  | _ => cases h.sql

theorem Form.read (h : r.Form json) (index : Nat) : RawClause.ofJson index json = .ok r := by
  obtain ⟨sql, values⟩ := r
  have hsql : (json.member? "sql").bind Json.string? = some sql := by rw [h.sql]; rfl
  have hvalues := h.values
  simp only [RawClause.ofJson, hsql]
  generalize json.member? "values" = written at hvalues
  cases hvalues with
  | missing => rfl
  | null => rfl
  | @items _ items hitems =>
    have hmap : items.map Cell.ofJson = values := by
      rw [← List.forall₂_eq_eq_eq, List.forall₂_map_left_iff]
      exact hitems.flip
    simp only [hmap]

end RawClause

/-- Whether JSON looks raw is seen from the value it is read as. -/
theorem isShape_eq_false {json : Json}
    (h : ∀ members, Value.ofJson json = .object members →
      RawClause.isShape (.object members) = false) : RawClause.isShape json = false := by
  cases json with
  | object members => exact h members (by simp [Value.ofJson])
  | _ => rfl

theorem Operand.Form.read {operand : Operand} {json : Json} (h : operand.Form json)
    (hexpr : operand.Expressible) (index : Nat) : Operand.ofJson index json = .ok operand := by
  cases h with
  | value hv =>
    subst hv
    simp [Operand.ofJson, isShape_eq_false hexpr.2]
  | raw hr => simp [Operand.ofJson, hr.isShape, hr.read index, Except.map]

namespace ColumnClause

variable {c : ColumnClause} {items : List Json}

theorem Form.read (h : c.Form items) (hexpr : c.Expressible) (index : Nat) :
    ColumnClause.ofItems index items = .ok c := by
  obtain ⟨hoperand, hconnective⟩ := h
  cases hoperand with
  | none =>
    -- A connective would be in the place of the operand.
    obtain rfl := hexpr.connective rfl
    cases hconnective
    rfl
  | some hoperand =>
    have hread := hoperand.read (hexpr.operand _ rfl) index
    cases hconnective with
    | none => simp [ofItems, Json.string?, hread, bind, Except.bind]
    | some hc => simp [ofItems, Json.string?, hread, hc.read, bind, Except.bind]

/-- The first element of a clause is no bracket. -/
theorem Form.exists_column (h : c.Form items) (hexpr : c.Expressible) :
    ∃ column rest, items = .string column :: rest ∧ Entry.isBracket column = false := by
  obtain ⟨-, -⟩ := h
  exact ⟨_, _, rfl, hexpr.column⟩

end ColumnClause

namespace Entry

theorem isBracket_eq_false_iff {s : String} :
    isBracket s = false ↔ trim s ≠ "(" ∧ trim s ≠ ")" := by
  simp [isBracket]

theorem trim_opening : trim "(" = "(" := by decide +kernel

theorem trim_closing : trim ")" = ")" := by decide +kernel

theorem Form.read {entry : Entry} {json : Json} (h : entry.Form json) (hexpr : entry.Expressible)
    (index : Nat) : Entry.ofJson index json = .ok entry := by
  cases h with
  | opening => simp [Entry.ofJson, trim_opening]
  | joinedOpening hc => simp [Entry.ofJson, trim_opening, hc.read]
  | closing => simp [Entry.ofJson, trim_closing]
  | raw hr =>
    obtain ⟨members, rfl⟩ := hr.isObject
    simp [Entry.ofJson, hr.read index, Except.map]
  | @column c items hc =>
    obtain ⟨column, rest, rfl, hcolumn⟩ := hc.exists_column hexpr
    obtain ⟨hopen, hclose⟩ := isBracket_eq_false_iff.mp hcolumn
    simp [Entry.ofJson, hopen, hclose, hc.read hexpr index, Except.map]

theorem read_forms {entries : List Entry} {items : List Json}
    (h : List.Forall₂ Entry.Form entries items) (hexpr : ∀ entry ∈ entries, entry.Expressible)
    (index : Nat) : Entry.ofItems index items = .ok entries := by
  induction h generalizing index with
  | nil => rfl
  | cons hentry _ ih =>
    obtain ⟨hfirst, hrest⟩ := List.forall_mem_cons.mp hexpr
    simp [Entry.ofItems, hentry.read hfirst index, ih hrest (index + 1), bind, Except.bind]

/-- A list of entries does not look like one clause. -/
theorem isBareClause_eq_false {entries : List Entry} {items : List Json}
    (h : List.Forall₂ Entry.Form entries items) : isBareClause items = false := by
  cases h with
  | nil => rfl
  | cons hentry _ =>
    cases hentry with
    | opening => simp [isBareClause, isBracket, trim_opening]
    | closing => simp [isBareClause, isBracket, trim_closing]
    | raw hr =>
      obtain ⟨members, rfl⟩ := hr.isObject
      rfl
    | _ => rfl

theorem FilterForm.read {entries : List Entry} {json : Option Json} (h : FilterForm entries json)
    (hexpr : ∀ entry ∈ entries, entry.Expressible) : Spec.readFilter json = .ok entries := by
  cases h with
  | entries h =>
    cases h with
    | missing => rfl
    | null => rfl
    | items h => simp [Spec.readFilter, isBareClause_eq_false h, read_forms h hexpr 0]
  | bare hc =>
    have hclause : ColumnClause.Expressible _ := hexpr _ (List.mem_singleton_self _)
    obtain ⟨column, rest, rfl, hcolumn⟩ := hc.exists_column hclause
    simp [Spec.readFilter, isBareClause, hcolumn, hc.read hclause 0, Except.map]

end Entry

theorem Selector.read_forms {selectors : List Selector} {items : List Json}
    (h : List.Forall₂ Selector.Form selectors items) (index : Nat) :
    Selector.ofItems index items = .ok selectors := by
  induction h generalizing index with
  | nil => rfl
  | cons hselector _ ih =>
    cases hselector with
    | column name => simp [Selector.ofItems, ih (index + 1), bind, Except.bind]
    | raw hr =>
      obtain ⟨members, rfl⟩ := hr.isObject
      simp [Selector.ofItems, hr.read index, ih (index + 1), bind, Except.bind, Except.map]

theorem OrderTerm.Form.read {t : OrderTerm} {json : Json} (h : t.Form json) :
    OrderTerm.ofJson? json = some t := by
  obtain ⟨hd⟩ := h
  simp [OrderTerm.ofJson?, Json.string?, hd]

theorem Limit.Form.read {limit : Limit} {json : Json} (h : limit.Form json) :
    Spec.readLimit (some json) = .ok (some limit) := by
  cases h <;> simp [Spec.readLimit, natural?, JsonNumber.uint64?_ofUInt64]

namespace Spec

theorem readColumns_of_listed {columns : List Selector} {json : Option Json}
    (h : Listed Selector.Form columns json) : readColumns json = .ok columns := by
  cases h with
  | missing => rfl
  | null => rfl
  | items h => exact Selector.read_forms h 0

theorem readLimit_of_given {limit : Option Limit} {json : Option Json}
    (h : Given Limit.Form limit json) : readLimit json = .ok limit := by
  cases h with
  | missing => rfl
  | null => rfl
  | given h => exact h.read

theorem readOrder_of_listed {order : List OrderTerm} {json : Option Json}
    (h : Listed OrderTerm.Form order json) : readOrder json = .ok order := by
  cases h with
  | missing => rfl
  | null => rfl
  | items h =>
    simp only [readOrder]
    congr 1
    induction h with
    | nil => rfl
    | cons hterm _ ih => rw [List.filterMap_cons_some hterm.read, ih]

theorem bind_connectiveOf?_of_given {connective : Option Connective} {json : Option Json}
    (h : Given Connective.Form connective json) : json.bind connectiveOf? = connective := by
  cases h with
  | missing => rfl
  | null => rfl
  | given h => exact h.read

theorem Form.read {spec : Spec} {json : Json} (h : spec.Form json) (hexpr : spec.Expressible) :
    Spec.ofJson json = .ok spec := by
  obtain ⟨⟨members, rfl⟩, hfilter, hcolumns, hlimit, horder, hconnective⟩ := h
  simp [ofJson, hfilter.read hexpr.filter, readColumns_of_listed hcolumns,
    readLimit_of_given hlimit, readOrder_of_listed horder,
    bind_connectiveOf?_of_given hconnective, bind, Except.bind]

/-- A request that JSON can express is read back as it was, from every way to write it in the
documented shape; it can be written with its filter as a list of entries, and with a filter of one
clause bare. -/
theorem ofJson_written {spec : Spec} (h : spec.Expressible) :
    (∀ json, spec.Form json → Spec.ofJson json = .ok spec) ∧
      spec.Form spec.toJson ∧
      ∀ c, spec.filter = [.column c] → spec.Form (spec.toJsonAround (.array c.toItems)) := by
  refine ⟨fun json hform => hform.read h, ?_, fun c hc => ?_⟩
  · exact form_toJsonAround h
      (.entries (.items (forall₂_map fun e he => Entry.form_toJson (h.filter e he))))
  · have hclause : c.Expressible := h.filter (.column c) (by simp [hc])
    refine form_toJsonAround h ?_
    rw [hc]
    exact .bare (ColumnClause.form_toItems hclause)

/-- A request with groups, nested values, raw parts, an order and a limit. -/
theorem ofJson_written_grouped :
    let spec : Spec :=
      { filter :=
          [.column ⟨"age", "IN", some (.value (.list [.integer 7, .list [.null]])), none⟩,
            .opening (some .or), .column ⟨"city", "ISNULL", none, none⟩,
            .raw ⟨"id = ?", [.integer 1]⟩,
            .column ⟨"id", "IN", some (.raw ⟨"SELECT id FROM t", []⟩), some .not⟩, .closing]
        columns := [.column "id", .raw ⟨"COUNT(*)", []⟩]
        limit := some (.range 10 5)
        connective := some .or
        order := [⟨"age", .desc⟩] }
    spec.Expressible ∧ Spec.ofJson spec.toJson = .ok spec := by
  intro spec
  have hvalue : ∃ json, Value.ofJson json = .list [.integer 7, .list [.null]] :=
    ⟨.array [.number (.integer 7 (by decide)), .array [.null]], rfl⟩
  have hcell : ∃ json, Cell.ofJson json = .integer 1 := ⟨.bool true, rfl⟩
  have hspec : spec.Expressible := by
    refine ⟨?_, ?_⟩
    · simp only [spec, List.forall_mem_cons]
      refine ⟨⟨by decide +kernel, ?_, by simp⟩, trivial, ⟨by decide +kernel, by simp, by simp⟩, ?_,
        ⟨by decide +kernel, ?_, by simp⟩, trivial, by simp⟩
      · rintro _ ⟨⟩
        exact ⟨hvalue, by simp⟩
      · simpa [Entry.Expressible, RawClause.Expressible] using hcell
      · rintro _ ⟨⟩
        simp [Operand.Expressible, RawClause.Expressible]
    · simp [spec, Selector.Expressible, RawClause.Expressible]
  obtain ⟨hread, hform, -⟩ := ofJson_written hspec
  exact ⟨hspec, hread _ hform⟩

/-- Without an operand a connective stands in its place and is read as one. -/
example :
    let spec : Spec :=
      { Spec.empty with filter := [.column ⟨"city", "ISNULL", none, some .or⟩] }
    Spec.ofJson spec.toJson =
      .ok { Spec.empty with
        filter := [.column ⟨"city", "ISNULL", some (.value (.text "OR")), none⟩] } := by
  rfl

end Spec

end FilterStore
