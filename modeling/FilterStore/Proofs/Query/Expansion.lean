import FilterStore.Proofs.Query.Wording

/-!
# Lists on temporal and on plain columns

An operator on lists has its operand expanded into cells, and counts the cells.  The column has one
say in this, by whether it is temporal: dates are stored in another way there.  The cells of a value
are therefore a function of the value and an affinity or none (`Clause.expansion`), and the operator
takes them by their number alone (`Clause.condition_eq_ok_iff`).

A text of words, a single value and a list of single values have the same cells on every column if
there is no date among them.  Nested lists have not.  A plain column opens them, and a temporal
column, which asks of each item how it is stored, has no answer for a list.  So temporal and plain
columns take the same values, dates aside, up to nested lists that the plain column accepts
(`Registry.expandAlike_iff`).
-/

namespace FilterStore

open Text (commaList lower)

/-! ## Values without dates, and nested lists -/

namespace Value

mutual

/-- Whether no date is found in a value at any depth. -/
def isDateless : Value → Bool
  | .date _ => false
  | .list items => areDateless items
  | _ => true

/-- Whether no date is found in the values of a list. -/
def areDateless : List Value → Bool
  | [] => true
  | item :: rest => item.isDateless && areDateless rest

end

def isList : Value → Bool
  | .list _ => true
  | _ => false

/-- Whether a value is a list with a list among its items. -/
def isNested : Value → Bool
  | .list items => items.any isList
  | _ => false

variable {v : Value} {items : List Value} {affinity : Affinity}

/-- Affinities matter to dates alone. -/
theorem encodeFor_of_isDateless (hv : v.isDateless = true) : v.encodeFor affinity = v.encode := by
  cases v with
  | date d => cases hv
  | _ => rfl

/-- A value that is no list has one cell in a list. -/
theorem encodeFlat_of_isList (hv : v.isList = false) :
    v.encodeFlat = v.encode.map fun cell => [cell] := by
  cases v with
  | list items => cases hv
  | _ => rfl

/-- **Flat lists without dates have the same cells on temporal columns as on plain ones.** -/
theorem mapM_encodeFor_eq (dateless : areDateless items = true) (flat : items.any isList = false) :
    items.mapM (fun v => v.encodeFor affinity) = encodeAll items := by
  induction items with
  | nil => rfl
  | cons item rest ih =>
    rw [areDateless, Bool.and_eq_true] at dateless
    rw [List.any_cons, Bool.or_eq_false_iff] at flat
    rw [List.mapM_cons, encodeFor_of_isDateless dateless.1, ih dateless.2 flat.2, encodeAll,
      encodeFlat_of_isList flat.1]
    cases item.encode <;> rfl

/-- **A nested list has no cells on a temporal column.** -/
theorem mapM_encodeFor_ne_ok (nested : items.any isList = true) (cells : List Cell) :
    items.mapM (fun v => v.encodeFor affinity) ≠ .ok cells := by
  intro h
  induction items generalizing cells with
  | nil => cases nested
  | cons item rest ih =>
    rw [List.mapM_cons] at h
    obtain ⟨first, hfirst, h⟩ := bind_eq_ok_iff.mp h
    obtain ⟨others, hothers, -⟩ := bind_eq_ok_iff.mp h
    rw [List.any_cons, Bool.or_eq_true] at nested
    rcases nested with list | nested
    · cases item with
      | list inner => cases hfirst
      | _ => cases list
    · exact ih nested others hothers

end Value

/-! ## Expansion -/

namespace Clause

/-- The cells an operator on lists gets for a value, if there are any. -/
def expansion (affinity : Option Affinity) : Value → Option (List Cell)
  | .list items => (encodeItems affinity items).toOption
  | .text s => some ((commaList s).map Cell.text)
  | v => (encode affinity v).toOption.map fun cell => [cell]

theorem Context.listCells_eq_ok_iff {x : Context} {operator : String} {v : Value}
    {cells : List Cell} : x.listCells operator (some (.value v)) = .ok cells ↔
      expansion x.affinity v = some cells := by
  rw [← toOption_eq_some_iff]
  cases v with
  | list items => rw [listCells, located_toOption, expansion]
  | text s => rfl
  | _ => simp only [listCells, toOption_map, located_toOption, expansion]

theorem expansion_of_flat {v : Value} (dateless : v.isDateless = true) (flat : v.isNested = false)
    (affinity : Affinity) : expansion (some affinity) v = expansion none v := by
  cases v with
  | list items => exact congrArg Except.toOption (Value.mapM_encodeFor_eq dateless flat)
  | date d => cases dateless
  | _ => rfl

theorem expansion_of_nested {v : Value} (nested : v.isNested = true) (affinity : Affinity) :
    expansion (some affinity) v = none := by
  cases v with
  | list items =>
    rw [Option.eq_none_iff_forall_ne_some]
    intro cells h
    exact Value.mapM_encodeFor_ne_ok nested cells (toOption_eq_some_iff.mp h)
  | _ => cases nested

end Clause

/-- Whether an operator on lists takes so many values. -/
def Operator.Takes (n : Nat) : Operator → Prop
  | .between | .notBetween => n = 2
  | _ => n ≠ 0

namespace Clause

variable {x : Context} {o : Operator} {v : Value} {q : Query}

theorem Context.someCells_eq_ok_iff {operator : String} {cells : List Cell} :
    x.someCells operator (some (.value v)) = .ok cells ↔
      expansion x.affinity v = some cells ∧ cells.length ≠ 0 := by
  simp only [someCells, bind_eq_ok_iff, listCells_eq_ok_iff]
  constructor
  · rintro ⟨found, hfound, h⟩
    split at h
    · cases h
    · rename_i filled
      cases h
      exact ⟨hfound, fun empty => filled (List.isEmpty_iff_length_eq_zero.mpr empty)⟩
  · rintro ⟨hcells, filled⟩
    refine ⟨cells, hcells, if_neg ?_⟩
    rwa [List.isEmpty_iff_length_eq_zero]

/-- **A condition on a list is its expansion, if the operator takes so many values.** -/
theorem condition_eq_ok_iff (ho : o.takesList = true) :
    condition x o (some (.value v)) = .ok q ↔
      ∃ cells, expansion x.affinity v = some cells ∧ o.Takes cells.length ∧
        q = ⟨wording x.column none cells.length o, cells⟩ := by
  have two : ∀ operator, x.between operator (some (.value v)) = .ok q ↔
      ∃ cells, expansion x.affinity v = some cells ∧ cells.length = 2 ∧
        q = ⟨x.column ++ " " ++ operator ++ " ? AND ?", cells⟩ := by
    intro operator
    simp only [Context.between, bind_eq_ok_iff, Context.listCells_eq_ok_iff]
    refine exists_congr fun cells => and_congr_right fun _ => ?_
    split
    · rename_i pair
      rw [Except.ok.injEq, and_iff_right pair, eq_comm]
    · rename_i other
      exact ⟨fun h => (by cases h), fun h => absurd h.1 other⟩
  have filled : ∀ (operator : String) (text : List Cell → String),
      (x.someCells operator (some (.value v)) >>= fun cells => .ok (Query.mk (text cells) cells)) =
          .ok q ↔
        ∃ cells, expansion x.affinity v = some cells ∧ cells.length ≠ 0 ∧
          q = ⟨text cells, cells⟩ := by
    intro operator text
    simp only [bind_eq_ok_iff, Context.someCells_eq_ok_iff, and_assoc, Except.ok.injEq,
      eq_comm (a := q)]
  cases o with
  | between | notBetween => exact two _
  | isIn | any | notIn | all => exact filled _ _
  | _ => cases ho

end Clause

/-! ## Temporal and plain columns -/

/-- Two columns are compared with the same cells by the same text, their names aside, or both are
refused. -/
inductive Clause.ExpandAlike (o : Operator) (column column' : String) :
    Except Error Query → Except Error Query → Prop
  | compiled (cells : List Cell) : ExpandAlike o column column'
      (.ok ⟨wording column none cells.length o, cells⟩)
      (.ok ⟨wording column' none cells.length o, cells⟩)
  | refused (e e' : Error) : ExpandAlike o column column' (.error e) (.error e')

namespace Clause

variable {x y : Context} {o : Operator} {v : Value}

theorem expandAlike_of_expansion_eq (ho : o.takesList = true)
    (same : expansion x.affinity v = expansion y.affinity v) :
    ExpandAlike o x.column y.column (condition x o (some (.value v)))
      (condition y o (some (.value v))) := by
  cases hx : condition x o (some (.value v)) with
  | ok q =>
    obtain ⟨cells, expands, takes, rfl⟩ := (condition_eq_ok_iff ho).mp hx
    rw [(condition_eq_ok_iff ho).mpr ⟨cells, same.symm.trans expands, takes, rfl⟩]
    exact .compiled cells
  | error e =>
    cases hy : condition y o (some (.value v)) with
    | error e' => exact .refused e e'
    | ok q =>
      obtain ⟨cells, expands, takes, -⟩ := (condition_eq_ok_iff ho).mp hy
      have compiled := (condition_eq_ok_iff ho).mpr ⟨cells, same.trans expands, takes, rfl⟩
      cases hx.symm.trans compiled

/-- A temporal column refuses nested lists, so it agrees with a column that refuses this one. -/
theorem expandAlike_of_isNested (ho : o.takesList = true) (nested : v.isNested = true)
    {affinity : Affinity} (temporal : x.affinity = some affinity) {column : String}
    {answer : Except Error Query} :
    ExpandAlike o x.column column (condition x o (some (.value v))) answer ↔
      ∃ e, answer = .error e := by
  have refused : ∀ q, condition x o (some (.value v)) ≠ .ok q := by
    intro q h
    obtain ⟨cells, expands, -⟩ := (condition_eq_ok_iff ho).mp h
    rw [temporal, expansion_of_nested nested] at expands
    cases expands
  cases hx : condition x o (some (.value v)) with
  | ok q => exact absurd hx (refused q)
  | error e =>
    constructor
    · rintro ⟨⟩
      exact ⟨_, rfl⟩
    · rintro ⟨e', rfl⟩
      exact .refused e e'

end Clause

namespace Registry

variable {r : Registry} {t u : TableDefinition} {c d : ColumnDefinition}

/-- **Dates aside, an operator on lists has the same values on temporal and on plain columns, unless
the plain column opens a nested list.** -/
theorem expandAlike_iff (hr : r.Reachable) (ht : t ∈ r.tables) (hu : u ∈ r.tables)
    {name name' : String} (hc : t.column? name = some c) (temporal : c.temporal = true)
    (hd : u.column? name' = some d) (plain : d.temporal = false) {operator operator' : String}
    {o : Operator} (ho : Operator.parse? operator = some o)
    (ho' : Operator.parse? operator' = some o) (list : o.takesList = true) {v : Value}
    (dateless : v.isDateless = true) (i j : Nat) (k l : Option Connective) :
    Clause.ExpandAlike o (lower c.name) (lower d.name)
        (ColumnClause.compile r t i ⟨name, operator, some (.value v), k⟩)
        (ColumnClause.compile r u j ⟨name', operator', some (.value v), l⟩) ↔
      (v.isNested = true →
        ∃ e, ColumnClause.compile r u j ⟨name', operator', some (.value v), l⟩ = .error e) := by
  have tidy := hr.consistent.toTidy
  let x : Clause.Context := ⟨i, lower c.name, some r.timestampAffinity⟩
  let y : Clause.Context := ⟨j, lower d.name, none⟩
  have there : ColumnClause.compile r t i ⟨name, operator, some (.value v), k⟩ =
      Clause.condition x o (some (.value v)) := by
    rw [tidy.compile_eq_condition ht hc ho, if_pos temporal]
  have here : ColumnClause.compile r u j ⟨name', operator', some (.value v), l⟩ =
      Clause.condition y o (some (.value v)) := by
    rw [tidy.compile_eq_condition hu hd ho', if_neg (Bool.eq_false_iff.mp plain)]
  rw [there, here]
  cases nested : v.isNested with
  | true =>
    refine (Clause.expandAlike_of_isNested (x := x) list nested rfl).trans ?_
    exact ⟨fun h _ => h, fun h => h rfl⟩
  | false =>
    refine iff_of_true ?_ fun h => (by cases h)
    exact Clause.expandAlike_of_expansion_eq (x := x) (y := y) list
      (Clause.expansion_of_flat dateless nested _)

/-- The clause that looks for some values in a column. -/
def among (column : String) (items : List Value) : ColumnClause :=
  ⟨column, "IN", some (.value (.list items)), none⟩

/-- A flat list is sought in the same way in both columns of a table. -/
theorem expandAlike_flat :
    ofVisits.Reachable ∧ visits ∈ ofVisits.tables ∧
      visits.column? "seen" = some ⟨"seen", "DATETIME", "", true⟩ ∧
      visits.column? "day" = some ⟨"day", "INTEGER", "", false⟩ ∧
      Operator.parse? "IN" = some .isIn ∧ Operator.isIn.takesList = true ∧
      (Value.list [.integer 0, .null]).isDateless = true ∧
      (among "seen" [.integer 0, .null]).compile ofVisits visits 0 =
        .ok ⟨"seen IN (?, ?)", [.integer 0, .null]⟩ ∧
      Clause.ExpandAlike .isIn "seen" "day"
        ((among "seen" [.integer 0, .null]).compile ofVisits visits 0)
        ((among "day" [.integer 0, .null]).compile ofVisits visits 0) := by
  have known : visits ∈ ofVisits.tables := by decide
  have seen : visits.column? "seen" = some ⟨"seen", "DATETIME", "", true⟩ := by decide
  have day : visits.column? "day" = some ⟨"day", "INTEGER", "", false⟩ := by decide
  have parsed : Operator.parse? "IN" = some .isIn := rfl
  have alike := expandAlike_iff ofVisits_reachable known known seen rfl day rfl parsed parsed rfl
    (v := .list [.integer 0, .null]) rfl 0 0 none none
  exact ⟨ofVisits_reachable, known, seen, day, parsed, rfl, rfl, rfl,
    alike.mpr fun h => (by cases h)⟩

/-- One and the list of two and three are three values to a column of integers, and none to a
column of dates. -/
theorem not_expandAlike_nested :
    ofVisits.compileWhere "visit"
        [.column (among "seen" [.integer 1, .list [.integer 2, .integer 3]])] none =
      .error (.unencodable (.entry 0 "seen") (.list 2)) ∧
    ofVisits.compileWhere "visit"
        [.column (among "day" [.integer 1, .list [.integer 2, .integer 3]])] none =
      .ok (some ⟨"(day IN (?, ?, ?))", [.integer 1, .integer 2, .integer 3]⟩) ∧
    ¬ Clause.ExpandAlike .isIn "seen" "day"
        ((among "seen" [.integer 1, .list [.integer 2, .integer 3]]).compile ofVisits visits 0)
        ((among "day" [.integer 1, .list [.integer 2, .integer 3]]).compile ofVisits visits 0) := by
  refine ⟨rfl, rfl, ?_⟩
  have seen : (among "seen" [.integer 1, .list [.integer 2, .integer 3]]).compile ofVisits visits 0 =
      .error (.unencodable (.entry 0 "seen") (.list 2)) := rfl
  have day : (among "day" [.integer 1, .list [.integer 2, .integer 3]]).compile ofVisits visits 0 =
      .ok ⟨"day IN (?, ?, ?)", [.integer 1, .integer 2, .integer 3]⟩ := rfl
  rw [seen, day]
  rintro ⟨⟩

end Registry

end FilterStore
