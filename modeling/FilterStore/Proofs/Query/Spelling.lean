import FilterStore.Proofs.Query.Field
import FilterStore.Proofs.Text.Words

/-!
# Spelling does not matter

Names are written in any case and with blanks around them, operators in any case and with any blanks
around and between their words.  Names are looked up in five places --- the table, the selected
columns, the columns of clauses, their affinity, the terms of an order --- and each of them drops
blanks and compares without regard to case.  What is written is not what was looked up: either it
is the registered name that was found, or, in a clause, the name in small letters, which is the same
for all spellings.  An operator is read by its words and written in its own spelling.

So a request in another spelling compiles if the request does, and into the same statement.  If it
does not compile the error may differ, because errors repeat names and operators as they were
written.  That is why the steps are equations of results and not of outcomes.
-/

namespace FilterStore

open Text (lower sameName trim)

/-! ## Other spellings -/

/-- Two spellings of one name: blanks around them and the case of ASCII letters aside, they are the
same. -/
def Text.Respells (a b : String) : Prop := sameName (trim a) (trim b) = true

/-- Two spellings of one operator. -/
def Operator.Respells (a b : String) : Prop :=
  Relation.EqvGen Text.Respacing a.toList b.toList

/-- A clause in another spelling. -/
structure ColumnClause.Respells (c d : ColumnClause) : Prop where
  column : Text.Respells c.column d.column
  operator : Operator.Respells c.operator d.operator
  operand : d.operand = c.operand
  connective : d.connective = c.connective

/-- An entry in another spelling; brackets and raw clauses stay as they are. -/
inductive Entry.Respells : Entry → Entry → Prop
  | opening (c : Option Connective) : Respells (.opening c) (.opening c)
  | closing : Respells .closing .closing
  | raw (r : RawClause) : Respells (.raw r) (.raw r)
  | column {c d : ColumnClause} (h : c.Respells d) : Respells (.column c) (.column d)

/-- A selected column in another spelling. -/
inductive Selector.Respells : Selector → Selector → Prop
  | column {a b : String} (h : Text.Respells a b) : Respells (.column a) (.column b)
  | raw (r : RawClause) : Respells (.raw r) (.raw r)

/-- A term of an order in another spelling. -/
structure OrderTerm.Respells (a b : OrderTerm) : Prop where
  column : Text.Respells a.column b.column
  direction : b.direction = a.direction

/-- A request in another spelling. -/
structure Spec.Respells (s s' : Spec) : Prop where
  filter : List.Forall₂ Entry.Respells s.filter s'.filter
  columns : List.Forall₂ Selector.Respells s.columns s'.columns
  order : List.Forall₂ OrderTerm.Respells s.order s'.order
  limit : s'.limit = s.limit
  connective : s'.connective = s.connective

/-- Lists that are related place by place are empty together. -/
theorem isEmpty_eq_of_forall₂ {α β : Type} {R : α → β → Prop} {xs : List α} {ys : List β}
    (h : List.Forall₂ R xs ys) : ys.isEmpty = xs.isEmpty := by
  cases h <;> rfl

/-! ## Names -/

section Names

variable {a b : String}

/-- What trims to a name up to case is another spelling of it, blanks of its own or not. -/
theorem Text.respells_of_sameName_trim (h : sameName a (trim b) = true) : Text.Respells a b := by
  rw [Text.sameName_iff] at h
  rw [Text.Respells, Text.sameName_iff, ← Text.trim_lower, h, Text.trim_lower, Text.trim_trim]

theorem Text.Respells.lower_trim (h : Text.Respells a b) : lower (trim a) = lower (trim b) :=
  Text.sameName_iff.mp h

/-- What is looked up by name is found under every spelling. -/
theorem Named.find?_congr {α : Type} {nameOf : α → String} (h : sameName a b = true)
    (xs : List α) : find? nameOf a xs = find? nameOf b xs := by
  rw [Text.sameName_iff] at h
  simp only [find?, sameName, h]

theorem Registry.table?_congr (r : Registry) (h : Text.Respells a b) : r.table? a = r.table? b :=
  Named.find?_congr h r.tables

theorem TableDefinition.column?_congr (t : TableDefinition) (h : Text.Respells a b) :
    t.column? a = t.column? b :=
  Named.find?_congr h t.columns

/-- Whether a text is a name does not depend on the case of its letters. -/
theorem isIdentifier_lower (s : String) : isIdentifier (lower s) = isIdentifier s := by
  have empty : (lower s).isEmpty = s.isEmpty := by
    rw [Bool.eq_iff_iff, String.isEmpty_iff, String.isEmpty_iff, ← String.toList_eq_nil_iff,
      Text.toList_lower, List.map_eq_nil_iff, String.toList_eq_nil_iff]
  have chars : (lower s).toList.all Text.isNameChar = s.toList.all Text.isNameChar := by
    simp only [Text.toList_lower, List.all_map, Function.comp_def, Text.isNameChar_toLower]
  rw [isIdentifier, isIdentifier, empty]
  exact congrArg (!s.isEmpty && ·) chars

theorem isIdentifier_congr (h : sameName a b = true) : isIdentifier a = isIdentifier b := by
  rw [← isIdentifier_lower a, Text.sameName_iff.mp h, isIdentifier_lower]

/-- The star is written in one way only. -/
theorem eq_star_congr (h : sameName a b = true) : a = "*" ↔ b = "*" := by
  -- No letter is lowered to a star.
  have star : ∀ s : String, s = "*" ↔ lower s = "*" := by
    intro s
    have char : ∀ c : Char, c = '*' ↔ c.toLower = '*' := by
      intro c
      rw [← Char.toNat_inj, ← Char.toNat_inj (c := c.toLower), Text.toNat_toLower]
      have code : '*'.toNat = 42 := rfl
      split <;> omega
    rw [← String.toList_inj, ← String.toList_inj, Text.toList_lower]
    have chars : "*".toList = ['*'] := rfl
    rw [chars]
    constructor
    · intro h
      rw [h]
      rfl
    · intro h
      obtain ⟨c, rest, heq, hc, hrest⟩ := List.map_eq_cons_iff.mp h
      rw [heq, (char c).mpr hc, List.map_eq_nil_iff.mp hrest]
  rw [star a, star b, Text.sameName_iff.mp h]

end Names

/-! ## Operators -/

/-- An operator is read by the capital letters of its words. -/
theorem Operator.normalize_eq (s : String) :
    normalize s = String.ofList
      ([' '].intercalate ((Text.loweredWords s.toList).map (List.map Char.toUpper))) := by
  have raised : (Text.loweredWords s.toList).map (List.map Char.toUpper) =
      (Text.wordsOf s.toList).map (List.map Char.toUpper) := by
    simp only [Text.loweredWords, List.map_map, Function.comp_def, Text.toUpper_toLower]
  have words : (Text.words s).map String.toList = Text.wordsOf s.toList := by
    simp only [Text.words_eq, List.map_map, Function.comp_def, String.toList_ofList, List.map_id']
  rw [normalize, Text.upper, String.toList_intercalate, words, Text.map_intercalate, raised]
  rfl

/-- An operator is read under every spelling. -/
theorem Operator.Respells.parse?_eq {a b : String} (h : Operator.Respells a b) :
    Operator.parse? a = Operator.parse? b := by
  rw [parse?, parse?, normalize_eq, normalize_eq, Text.loweredWords_of_eqvGen h]

/-! ## Clauses and filters -/

section Filter

variable {r : Registry} {t : TableDefinition}

theorem ColumnClause.Respells.compile_toOption {c d : ColumnClause} (h : c.Respells d) (i : Nat) :
    (d.compile r t i).toOption = (c.compile r t i).toOption := by
  unfold compile
  rw [← h.operator.parse?_eq, ← h.column.lower_trim, h.operand]
  split <;> rfl

/-- **A filter in another spelling is compiled into the same condition.** -/
theorem Condition.compileFrom_toOption_of_respells {joining : Connective} {es es' : List Entry}
    (h : List.Forall₂ Entry.Respells es es') (i : Nat) (first : Bool) (depth : Nat) :
    (compileFrom r t joining i first depth es').toOption =
      (compileFrom r t joining i first depth es).toOption := by
  induction h generalizing i first depth with
  | nil => rfl
  | cons head _ ih =>
    cases head with
    | opening c => simp only [compileFrom, toOption_bind, ih]
    | closing =>
      simp only [compileFrom]
      split
      · rfl
      · split
        · rfl
        · simp only [toOption_bind, ih]
    | raw raw => simp only [compileFrom, toOption_bind, ih]
    | column h => simp only [compileFrom, toOption_bind, ih, h.compile_toOption, h.connective]

theorem whereClause_toOption_of_respells {s s' : Spec} (h : s.Respells s') :
    (r.whereClause t s').toOption = (r.whereClause t s).toOption := by
  have joining : s'.joining = s.joining := by rw [Spec.joining, h.connective, Spec.joining]
  rw [Registry.whereClause, Registry.whereClause, isEmpty_eq_of_forall₂ h.filter, joining]
  split
  · rfl
  · simp only [toOption_bind, Condition.compile,
      Condition.compileFrom_toOption_of_respells h.filter]

end Filter

/-! ## Selected columns and orders -/

section Lists

variable {t : TableDefinition}

theorem Selector.Respells.selected_toOption {a b : Selector} (h : a.Respells b) :
    (Statement.selected t b).toOption = (Statement.selected t a).toOption := by
  cases h with
  | raw raw => rfl
  | @column a b h =>
    have star : trim a = "*" ↔ trim b = "*" := eq_star_congr h
    simp only [Statement.selected, star, t.column?_congr h]
    split
    · rfl
    · split <;> rfl

theorem selectList_toOption_of_respells {ss ss' : List Selector}
    (h : List.Forall₂ Selector.Respells ss ss') :
    (Statement.selectList t ss').toOption = (Statement.selectList t ss).toOption := by
  have each : (ss'.mapM (Statement.selected t)).toOption =
      (ss.mapM (Statement.selected t)).toOption := by
    induction h with
    | nil => rfl
    | cons head _ ih => simp only [List.mapM_cons, toOption_bind, head.selected_toOption, ih]
  rw [Statement.selectList, Statement.selectList, isEmpty_eq_of_forall₂ h]
  split
  · rfl
  · rw [toOption_map, toOption_map, each]

theorem OrderTerm.Respells.orderTerm_toOption {a b : OrderTerm} (h : a.Respells b) (i : Nat) :
    (Statement.orderTerm t i b).toOption = (Statement.orderTerm t i a).toOption := by
  have inner : Text.Respells (trim a.column) (trim b.column) := by
    rw [Text.Respells, Text.trim_trim, Text.trim_trim]
    exact h.column
  simp only [Statement.orderTerm, ← isIdentifier_congr h.column, ← t.column?_congr inner,
    h.direction]
  split
  · split <;> rfl
  · rfl

theorem orderClause_toOption_of_respells {os os' : List OrderTerm}
    (h : List.Forall₂ OrderTerm.Respells os os') :
    (Statement.orderClause t os').toOption = (Statement.orderClause t os).toOption := by
  have terms : ∀ i, (Statement.orderTerms t i os').toOption =
      (Statement.orderTerms t i os).toOption := by
    induction h with
    | nil => exact fun _ => rfl
    | cons head _ ih =>
      intro i
      simp only [Statement.orderTerms, toOption_bind, head.orderTerm_toOption, ih]
  rw [Statement.orderClause, Statement.orderClause, isEmpty_eq_of_forall₂ h]
  split
  · rfl
  · rw [toOption_map, toOption_map, terms]

end Lists

/-! ## Requests -/

/-- **A request in another spelling is compiled into the same statement, or neither is.** -/
theorem Registry.compileSelect_respelled (r : Registry) {table table' : String} {spec spec' : Spec}
    (htable : Text.Respells table table') (hspec : spec.Respells spec') (q : Query) :
    r.compileSelect table' spec' = .ok q ↔ r.compileSelect table spec = .ok q := by
  have target : (r.target table').toOption = (r.target table).toOption := by
    simp only [Registry.target, ← r.table?_congr htable]
    split <;> rfl
  have same : (r.compileSelect table' spec').toOption = (r.compileSelect table spec).toOption := by
    simp only [Registry.compileSelect, toOption_bind, target,
      selectList_toOption_of_respells hspec.columns, whereClause_toOption_of_respells hspec,
      orderClause_toOption_of_respells hspec.order, hspec.limit]
  rw [← toOption_eq_some_iff, same, toOption_eq_some_iff]

/-- The cities of those who are not of working age, oldest first. -/
def outsideWork : Spec :=
  ⟨[.column ⟨"age", "NOT BETWEEN", some (.value (.list [.integer 18, .integer 65])), none⟩],
    [.column "city"], none, none, [⟨"age", .desc⟩]⟩

/-- The same request, typed with less care. -/
def outsideWorkTyped : Spec :=
  ⟨[.column ⟨"\tAge", "\u00a0not  Between",
      some (.value (.list [.integer 18, .integer 65])), none⟩],
    [.column "CITY "], none, none, [⟨" aGE\n", .desc⟩]⟩

theorem Registry.compileSelect_outsideWorkTyped :
    Text.Respells "user" " USER" ∧ outsideWork.Respells outsideWorkTyped ∧
      ofUsers.compileSelect "user" outsideWork =
        .ok ⟨"SELECT city FROM user WHERE (age NOT BETWEEN ? AND ?) ORDER BY age DESC",
          [.integer 18, .integer 65]⟩ ∧
      ofUsers.compileSelect " USER" outsideWorkTyped =
        .ok ⟨"SELECT city FROM user WHERE (age NOT BETWEEN ? AND ?) ORDER BY age DESC",
          [.integer 18, .integer 65]⟩ := by
  have table : Text.Respells "user" " USER" := Text.respells_of_sameName_trim rfl
  have operator : Operator.Respells "NOT BETWEEN" "\u00a0not  Between" := by
    have recased : Text.Respacing "NOT BETWEEN".toList ("not".toList ++ ' ' :: "Between".toList) :=
      .recase (by decide)
    have widened := Text.Respacing.widen (a := ' ') (b := ' ') (c := ' ') "not".toList
      "Between".toList rfl rfl rfl
    have led := Text.Respacing.lead ("not".toList ++ ' ' :: ' ' :: "Between".toList)
      (b := '\u00a0') rfl
    exact .trans _ _ _ (.rel _ _ recased) (.trans _ _ _ (.rel _ _ widened) (.rel _ _ led))
  have spec : outsideWork.Respells outsideWorkTyped :=
    { filter := .cons (.column ⟨rfl, operator, rfl, rfl⟩) .nil
      columns := .cons (.column rfl) .nil
      order := .cons ⟨rfl, rfl⟩ .nil
      limit := rfl
      connective := rfl }
  have compiled : ofUsers.compileSelect "user" outsideWork =
      .ok ⟨"SELECT city FROM user WHERE (age NOT BETWEEN ? AND ?) ORDER BY age DESC",
        [.integer 18, .integer 65]⟩ := by
    have target : ofUsers.target "user" = .ok users := rfl
    have columns : Statement.selectList users outsideWork.columns = .ok (.text "city") := rfl
    have condition : ofUsers.whereClause users outsideWork =
        .ok ⟨" WHERE (age NOT BETWEEN ? AND ?)", [.integer 18, .integer 65]⟩ := rfl
    have order : Statement.orderClause users outsideWork.order = .ok " ORDER BY age DESC" := rfl
    simp only [compileSelect, target, columns, condition, order, ok_bind]
    rfl
  exact ⟨table, spec, compiled, (compileSelect_respelled ofUsers table spec _).mpr compiled⟩

end FilterStore
