import FilterStore.Proofs.Query.Forest
import FilterStore.Proofs.Query.Shape
import FilterStore.Query.Statement

/-!
# The parts of a statement

A statement is woven from parts, each with cells of its own: raw clauses among the selected columns,
then a placeholder for each field of a record, then the condition of each leaf of a filter.
Everything else that is written is plain: keywords, brackets and joiners, numbers, and names, which
the registry lets through only if they are identifiers.

This module looks at one piece of a statement after the other and says which parts it is woven from.
The condition of a leaf is aligned as long as the raw clause in it, if there is one, leaves no quote
open.  That its cells have been counted need not be asked for, since it would not have been compiled
otherwise.
-/

namespace FilterStore

open Condition (joint enclosed compileFrom)
open Placeholder (Plain)
open Query (Woven mark)
open Text (IsWord)

/-- The leaf that an entry is; brackets are none. -/
def Entry.leaf? : Entry → Option Leaf
  | .raw r => some (.raw r)
  | .column c => some (.column c)
  | .opening _ => none
  | .closing => none

/-- The leaves of a filter in order. -/
def leavesOf (filter : List Entry) : List Leaf := filter.filterMap Entry.leaf?

theorem leavesOf_leaf (l : Leaf) (es : List Entry) :
    leavesOf (l.entry :: es) = l :: leavesOf es := by
  cases l <;> rfl

/-- The leaves of a filter are those of its forest. -/
theorem leavesOf_flatten (f : Forest) : leavesOf f.flatten = f.leaves := by
  induction f with
  | nil => rfl
  | leaf l rest ih => rw [Forest.flatten, leavesOf_leaf, ih, Forest.leaves]
  | group c inside rest ihInside ihRest =>
    rw [Forest.flatten, leavesOf, List.filterMap_cons_none rfl, List.filterMap_append,
      List.filterMap_cons_none rfl, ← leavesOf, ← leavesOf, ihInside, ihRest, Forest.leaves]

/-- The conditions of the leaves of a filter, each compiled on its own. -/
def Bodies (r : Registry) (t : TableDefinition) (filter : List Entry) (bodies : List Query) : Prop :=
  List.Forall₂ (fun l body => Leaf.compile r t 0 l = .ok body) (leavesOf filter) bodies

/-- The raw clause that is written into the condition of a leaf. -/
def Leaf.written? : Leaf → Option RawClause
  | raw r => some r
  | column c => (Operator.parse? c.operator).bind fun o => Clause.writtenRaw? o c.operand

/-! ## Conditions of leaves -/

section Leaves

variable {r : Registry} {t : TableDefinition}

/-- The raw clause in the condition of a leaf has been accepted. -/
theorem Leaf.accepted {index : Nat} {l : Leaf} {body : Query}
    (h : l.compile r t index = .ok body) : ∀ raw ∈ l.written?, raw.Accepted := by
  cases l with
  | raw clause =>
    obtain ⟨_, hcheck, -⟩ := bind_eq_ok_iff.mp h
    rintro raw ⟨⟩
    exact RawClause.check_eq_ok_iff.mp hcheck
  | column c =>
    rw [compile] at h
    obtain ⟨o, ho, hshape⟩ := ColumnClause.exists_shape h
    intro raw hraw
    rw [written?, ho, Option.bind_some, Option.mem_def] at hraw
    rw [hraw] at hshape
    obtain ⟨_, ⟨⟩, haccepted, -⟩ | ⟨d, -, hshape⟩ := hshape
    · exact haccepted
    · exact hshape.accepted

/-- The condition of a leaf is aligned if the raw clause in it, should there be one, leaves no quote
open. -/
theorem Leaf.aligned (ht : t.WellNamed) {index : Nat} {l : Leaf} {body : Query}
    (h : l.compile r t index = .ok body) (hclosed : ∀ raw ∈ l.written?, raw.Closed) :
    body.Aligned := by
  cases l with
  | raw clause =>
    obtain ⟨_, hcheck, h⟩ := bind_eq_ok_iff.mp h
    cases h
    exact RawClause.aligned_query (RawClause.check_eq_ok_iff.mp hcheck) (hclosed clause rfl)
  | column c =>
    rw [compile] at h
    obtain ⟨o, ho, hshape⟩ := ColumnClause.exists_shape h
    rw [written?, ho, Option.bind_some] at hclosed
    obtain ⟨raw, hraw, haccepted, rfl⟩ | ⟨d, hd, hshape⟩ := hshape
    · exact Clause.aligned_rowsOf o haccepted (hclosed raw hraw)
    · have hname := isWord_of_isIdentifier (ht.columns d hd)
      exact hshape.aligned (Clause.plain_of_isWord hname.lower) hclosed

variable {filter : List Entry} {bodies : List Query}

/-- The raw clauses that are written into the conditions of a filter, in order. -/
def writtenRaws (filter : List Entry) : List RawClause := (leavesOf filter).filterMap Leaf.written?

theorem mem_writtenRaws {raw : RawClause} :
    raw ∈ writtenRaws filter ↔ ∃ l ∈ leavesOf filter, raw ∈ l.written? :=
  List.mem_filterMap

theorem Bodies.accepted (h : Bodies r t filter bodies) :
    ∀ raw ∈ writtenRaws filter, raw.Accepted := by
  intro raw hraw
  obtain ⟨l, hl, hwritten⟩ := mem_writtenRaws.mp hraw
  unfold Bodies at h
  generalize leavesOf filter = leaves at h hl
  induction h with
  | nil => exact absurd hl List.not_mem_nil
  | cons hbody _ ih =>
    rcases List.mem_cons.mp hl with rfl | hl
    · exact Leaf.accepted hbody raw hwritten
    · exact ih hl

/-- The conditions of a filter are aligned if none of the raw clauses in them leaves a quote
open. -/
theorem Bodies.aligned (ht : t.WellNamed) (h : Bodies r t filter bodies)
    (hclosed : ∀ raw ∈ writtenRaws filter, raw.Closed) : ∀ body ∈ bodies, body.Aligned := by
  have hleaves : ∀ l ∈ leavesOf filter, ∀ raw ∈ l.written?, raw.Closed := fun l hl raw hraw =>
    hclosed raw (mem_writtenRaws.mpr ⟨l, hl, hraw⟩)
  unfold Bodies at h
  generalize leavesOf filter = leaves at h hleaves
  induction h with
  | nil => exact fun body hbody => absurd hbody List.not_mem_nil
  | cons hbody _ ih =>
    refine List.forall_mem_cons.mpr ⟨?_, ih fun m hm => hleaves m (List.mem_cons_of_mem _ hm)⟩
    exact Leaf.aligned ht hbody (hleaves _ List.mem_cons_self)

end Leaves

/-! ## A filter is woven from its conditions -/

theorem woven_joint (first : Bool) (c : Connective) : Woven [] (joint first c) := by
  cases first with
  | true => exact Woven.empty
  | false => cases c <;> exact .plain (by decide)

theorem woven_enclosed (body : Query) : Woven [body] (enclosed body) :=
  ((Woven.part body).prepend (by decide : Plain "(")).append_text (by decide : Plain ")")

/-- **The pass over a filter weaves the conditions of its leaves.** -/
theorem exists_bodies_of_compileFrom {r : Registry} {t : TableDefinition} {joining : Connective}
    {es : List Entry} {index : Nat} {first : Bool} {depth : Nat} {q : Query}
    (h : compileFrom r t joining index first depth es = .ok q) :
    ∃ bodies, Bodies r t es bodies ∧ Woven bodies q := by
  induction es generalizing index first depth q with
  | nil =>
    rw [compileFrom] at h
    split at h
    · cases h
      exact ⟨[], .nil, Woven.empty⟩
    · cases h
  | cons e es ih =>
    have before : ∀ l : Leaf, l.entry = e → ∃ bodies, Bodies r t (e :: es) bodies ∧
        Woven bodies q := by
      rintro l rfl
      rw [Forest.compileFrom_leaf] at h
      obtain ⟨body, hbody, h⟩ := bind_eq_ok_iff.mp h
      obtain ⟨after, hafter, h⟩ := bind_eq_ok_iff.mp h
      cases h
      obtain ⟨bodies, hbodies, hwoven⟩ := ih hafter
      refine ⟨body :: bodies, ?_, ((woven_joint _ _).append (woven_enclosed body)).append hwoven⟩
      rw [Bodies, leavesOf_leaf]
      exact .cons (Leaf.compile_eq_ok hbody 0) hbodies
    cases e with
    | raw clause => exact before (.raw clause) rfl
    | column c => exact before (.column c) rfl
    | opening c =>
      obtain ⟨inside, hinside, h⟩ := bind_eq_ok_iff.mp h
      cases h
      obtain ⟨bodies, hbodies, hwoven⟩ := ih hinside
      refine ⟨bodies, hbodies, ?_⟩
      exact ((woven_joint _ _).append_text (by decide : Plain "(")).append hwoven
    | closing =>
      rw [compileFrom] at h
      split at h
      · cases h
      · split at h
        · cases h
        · obtain ⟨after, hafter, h⟩ := bind_eq_ok_iff.mp h
          cases h
          obtain ⟨bodies, hbodies, hwoven⟩ := ih hafter
          exact ⟨bodies, hbodies, hwoven.prepend (by decide : Plain ")")⟩

theorem exists_bodies_of_whereClause {r : Registry} {t : TableDefinition} {spec : Spec} {q : Query}
    (h : r.whereClause t spec = .ok q) :
    ∃ bodies, Bodies r t spec.filter bodies ∧ Woven bodies q := by
  unfold Registry.whereClause at h
  split at h
  · rename_i hempty
    cases h
    rw [List.isEmpty_iff] at hempty
    rw [hempty]
    exact ⟨[], .nil, Woven.empty⟩
  · obtain ⟨condition, hcondition, h⟩ := bind_eq_ok_iff.mp h
    cases h
    obtain ⟨bodies, hbodies, hwoven⟩ := exists_bodies_of_compileFrom hcondition
    exact ⟨bodies, hbodies, hwoven.prepend (by decide : Plain " WHERE ")⟩

/-! ## The plain parts of a statement -/

/-- The names of a table's columns are plain. -/
theorem TableDefinition.WellNamed.plain_column {t : TableDefinition} (ht : t.WellNamed)
    {name : String} {d : ColumnDefinition} (h : t.column? name = some d) : Plain d.name :=
  Clause.plain_of_isWord (isWord_of_isIdentifier (ht.columns d (Named.mem_of_find? h)))

theorem TableDefinition.WellNamed.plain_name {t : TableDefinition} (ht : t.WellNamed) :
    Plain t.name :=
  Clause.plain_of_isWord (isWord_of_isIdentifier ht.name)

theorem isDigit_of_mem_toString {n : Nat} {c : Char} (hc : c ∈ (toString n).toList) :
    c.isDigit = true := by
  refine Nat.isDigit_of_mem_toDigits (by decide : 0 < 10) (by decide) (n := n) ?_
  rwa [show toString n = String.ofList (Nat.toDigits 10 n) from rfl, String.toList_ofList] at hc

theorem plain_toString (n : Nat) : Plain (toString n) := fun _ hc =>
  Placeholder.isPlain_of_holds (by decide) (isDigit_of_mem_toString hc)

namespace Statement

variable {r : Registry} {t : TableDefinition}

theorem plain_allColumns (ht : t.WellNamed) : Plain (allColumns t) := by
  unfold allColumns
  split
  · decide
  · refine Placeholder.Plain.intercalate (by decide) fun name hname => ?_
    obtain ⟨d, hd, rfl⟩ := List.mem_map.mp hname
    exact Clause.plain_of_isWord (isWord_of_isIdentifier (ht.columns d hd))

theorem plain_orderTerms (ht : t.WellNamed) {index : Nat} {order : List OrderTerm}
    {terms : List String} (h : orderTerms t index order = .ok terms) : ∀ s ∈ terms, Plain s := by
  induction order generalizing index terms with
  | nil =>
    cases h
    exact fun s hs => absurd hs List.not_mem_nil
  | cons term rest ih =>
    obtain ⟨first, hfirst, h⟩ := bind_eq_ok_iff.mp h
    obtain ⟨others, hothers, h⟩ := bind_eq_ok_iff.mp h
    cases h
    refine List.forall_mem_cons.mpr ⟨?_, ih hothers⟩
    simp only [orderTerm] at hfirst
    split at hfirst
    · split at hfirst
      · rename_i d hd
        cases hfirst
        refine ((ht.plain_column hd).append (by decide)).append ?_
        cases term.direction <;> decide
      · cases hfirst
    · cases hfirst

theorem plain_orderClause (ht : t.WellNamed) {order : List OrderTerm} {s : String}
    (h : orderClause t order = .ok s) : Plain s := by
  unfold orderClause at h
  split at h
  · cases h
    decide
  · obtain ⟨terms, hterms, rfl⟩ := map_eq_ok_iff.mp h
    refine Plain.append (by decide) ?_
    exact Placeholder.Plain.intercalate (by decide) (plain_orderTerms ht hterms)

theorem plain_limitClause (limit : Option Limit) : Plain (limitClause limit) := by
  match limit with
  | none => decide
  | some (.count n) => exact Plain.append (by decide) (plain_toString _)
  | some (.range offset count) =>
    rw [limitClause]
    split
    · decide
    · exact ((Plain.append (by decide) (plain_toString _)).append (by decide)).append
        (plain_toString _)

/-- Every field of a record is written under the name of a column. -/
theorem plain_fields (ht : t.WellNamed) {index : Nat} {record : List (String × Value)}
    {fields : List (String × Cell)} (h : Statement.fields r t index record = .ok fields) :
    ∀ f ∈ fields, Plain f.1 := by
  induction record generalizing index fields with
  | nil =>
    cases h
    exact fun f hf => absurd hf List.not_mem_nil
  | cons field rest ih =>
    obtain ⟨name, value⟩ := field
    rw [Statement.fields] at h
    split at h
    · cases h
    · rename_i d hd
      simp only at h
      split at h
      · cases h
      · obtain ⟨others, hothers, h⟩ := bind_eq_ok_iff.mp h
        cases h
        exact List.forall_mem_cons.mpr ⟨ht.plain_column hd, ih hothers⟩

end Statement

/-! ## Selected columns -/

/-- The raw clause that a selected column is. -/
def Selector.raw? : Selector → Option RawClause
  | .column _ => none
  | .raw r => some r

/-- The raw clauses among selected columns, in order. -/
def selectedRaws (columns : List Selector) : List RawClause := columns.filterMap Selector.raw?

/-- A raw clause as it is given, blanks and all. -/
def RawClause.verbatim (raw : RawClause) : Query := ⟨raw.sql, raw.values⟩

namespace Statement

variable {t : TableDefinition}

theorem woven_selected (ht : t.WellNamed) {s : Selector} {q : Query}
    (h : selected t s = .ok q) : Woven (s.raw?.toList.map RawClause.verbatim) q := by
  cases s with
  | raw raw =>
    cases h
    exact Woven.part raw.verbatim
  | column name =>
    rw [selected] at h
    split at h
    · cases h
      exact .plain (plain_allColumns ht)
    · split at h
      · rename_i d hd
        cases h
        exact .plain (ht.plain_column hd)
      · cases h

theorem woven_commaSeparated (ht : t.WellNamed) {columns : List Selector} {qs : List Query}
    (h : columns.mapM (selected t) = .ok qs) :
    Woven ((selectedRaws columns).map RawClause.verbatim) (commaSeparated qs) := by
  induction columns generalizing qs with
  | nil =>
    cases h
    exact Woven.empty
  | cons s rest ih =>
    rw [List.mapM_cons, bind_eq_ok_iff] at h
    obtain ⟨q, hq, h⟩ := h
    obtain ⟨others, hothers, h⟩ := bind_eq_ok_iff.mp h
    cases h
    have hfirst := woven_selected ht hq
    have hrest := ih hothers
    have hraws : (selectedRaws (s :: rest)).map RawClause.verbatim =
        s.raw?.toList.map RawClause.verbatim ++ (selectedRaws rest).map RawClause.verbatim := by
      rw [selectedRaws, List.filterMap_cons]
      cases s <;> rfl
    rw [hraws]
    cases others with
    | nil =>
      have h := hfirst.append hrest
      rwa [commaSeparated, Query.append_empty] at h
    | cons other others =>
      exact (hfirst.append_text (by decide : Plain ", ")).append hrest

theorem woven_selectList (ht : t.WellNamed) {columns : List Selector} {q : Query}
    (h : selectList t columns = .ok q) :
    Woven ((selectedRaws columns).map RawClause.verbatim) q := by
  unfold selectList at h
  split at h
  · rename_i hempty
    cases h
    rw [List.isEmpty_iff] at hempty
    rw [hempty]
    exact .plain (plain_allColumns ht)
  · obtain ⟨qs, hqs, rfl⟩ := map_eq_ok_iff.mp h
    exact woven_commaSeparated ht hqs

end Statement

end FilterStore
