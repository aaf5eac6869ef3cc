import FilterStore.Proofs.Query.Position
import FilterStore.Proofs.Schema.Reachable
import FilterStore.Query.Condition

/-!
# A filter is a forest

The entries of a filter stand in one line, and the compiler goes through the line once with a count
of open groups and a mark for a group that has just been opened.  What a filter *means* is not a
line.  Between the brackets of a group stands a filter again, so a filter is a *forest*: a leaf or a
group, and a forest behind it, where a group holds a forest of its own.

## Why the pass is a recursion on the forest

The pass over a line that starts with all entries of a forest compiles that forest and goes on with
the rest of the line in the state that the forest leaves behind: the same count of open groups, and
no group just opened unless the forest is empty.  This is `compileFrom_flatten_append`; it is an
equation of whole outcomes, errors included.

Conversely a line that the pass accepts is the line of a forest.  Inside a count of open groups such
a line is a forest, a closing bracket, a forest, a closing bracket, and so on, with one bracket for
each open group; `exists_forests_of_compileFrom` follows the pass backwards through the entries.

So a filter compiles exactly when it is the line of a forest without empty groups whose leaves all
compile, and a leaf compiles or not wherever it stands.
-/

namespace FilterStore

open Condition (joint enclosed compileFrom)

/-- What a filter is made of besides brackets. -/
inductive Leaf
  | raw (r : RawClause)
  | column (c : ColumnClause)

namespace Leaf

/-- The entry of a leaf. -/
def entry : Leaf → Entry
  | raw r => .raw r
  | column c => .column c

theorem entry_injective {l m : Leaf} (h : l.entry = m.entry) : l = m := by
  cases l <;> cases m <;> cases h <;> rfl

/-- How a leaf says it is joined; a raw clause does not say it. -/
def connective? : Leaf → Option Connective
  | raw _ => none
  | column c => c.connective

/-- The condition of a leaf at a position. -/
def compile (r : Registry) (t : TableDefinition) (index : Nat) : Leaf → Except Error Query
  | raw clause => do
    clause.check index
    .ok clause.query
  | column c => c.compile r t index

/-- The condition of a leaf does not depend on its position. -/
theorem compile_toOption (r : Registry) (t : TableDefinition) (i j : Nat) (l : Leaf) :
    (l.compile r t i).toOption = (l.compile r t j).toOption := by
  cases l with
  | raw clause => simp only [compile, toOption_bind, RawClause.check_toOption _ i j]
  | column c => exact c.compile_toOption r t i j

/-- A leaf compiles at every position if it does at one. -/
theorem compile_eq_ok {r : Registry} {t : TableDefinition} {l : Leaf} {i : Nat} {q : Query}
    (h : l.compile r t i = .ok q) (j : Nat) : l.compile r t j = .ok q := by
  rw [← toOption_eq_some_iff] at h ⊢
  rw [← h, l.compile_toOption r t j i]

end Leaf

/-- A filter with its groups as a tree: nothing, a leaf with what stands behind it, or a group with
its contents and what stands behind it. -/
inductive Forest
  | nil
  | leaf (l : Leaf) (rest : Forest)
  | group (connective : Option Connective) (inside rest : Forest)

namespace Forest

/-- The entries of a forest in a line. -/
def flatten : Forest → List Entry
  | nil => []
  | leaf l rest => l.entry :: rest.flatten
  | group c inside rest => .opening c :: (inside.flatten ++ .closing :: rest.flatten)

/-- The leaves of a forest from left to right. -/
def leaves : Forest → List Leaf
  | nil => []
  | leaf l rest => l :: rest.leaves
  | group _ inside rest => inside.leaves ++ rest.leaves

/-- No group of a forest is empty. -/
def NoEmptyGroup : Forest → Prop
  | nil => True
  | leaf _ rest => rest.NoEmptyGroup
  | group _ inside rest => inside ≠ nil ∧ inside.NoEmptyGroup ∧ rest.NoEmptyGroup

/-- Whether there is nothing in a forest. -/
def isNil : Forest → Bool
  | nil => true
  | _ => false

@[simp] theorem isNil_iff {f : Forest} : f.isNil = true ↔ f = nil := by
  cases f <;> simp [isNil]

/-- What is written between a tree and the one before it, given whether there is none. -/
def joiner (first : Bool) (c : Connective) : String := if first then "" else c.joiner

theorem sql_joint (first : Bool) (c : Connective) : (joint first c).sql = joiner first c := by
  cases first <;> rfl

/-- The text of a forest whose leaves have the given texts: leaves and groups in parentheses, with
the joiner of each tree before it unless it is the first one of the filter or of its group. -/
def text (joining : Connective) (body : Leaf → String) : Bool → Forest → String
  | _, nil => ""
  | first, leaf l rest =>
    joiner first (l.connective?.getD joining) ++ "(" ++ body l ++ ")" ++ rest.text joining body false
  | first, group c inside rest =>
    joiner first (c.getD joining) ++ "(" ++ inside.text joining body true ++ ")" ++
      rest.text joining body false

/-- A forest without empty groups has a leaf unless its line is empty. -/
theorem exists_leaf {f : Forest} (hgroups : f.NoEmptyGroup) (hne : f.flatten ≠ []) :
    ∃ l, l ∈ f.leaves := by
  induction f with
  | nil => exact absurd rfl hne
  | leaf l rest => exact ⟨l, List.mem_cons_self⟩
  | group c inside rest ihInside =>
    obtain ⟨hinside, hgroups, -⟩ := hgroups
    have hline : inside.flatten ≠ [] := by
      cases inside with
      | nil => exact absurd rfl hinside
      | leaf l after => exact List.cons_ne_nil _ _
      | group c contents after => exact List.cons_ne_nil _ _
    obtain ⟨l, hl⟩ := ihInside hgroups hline
    exact ⟨l, List.mem_append_left _ hl⟩

/-! ## The pass over the line of a forest -/

variable (r : Registry) (t : TableDefinition) (joining : Connective)

/-- Compiles a forest tree by tree, the first of its entries at a position. -/
def compile : Nat → Bool → Forest → Except Error Query
  | _, _, nil => .ok .empty
  | index, first, leaf l rest => do
    let body ← l.compile r t index
    let after ← rest.compile (index + 1) false
    .ok (joint first (l.connective?.getD joining) ++ enclosed body ++ after)
  | index, first, group c inside rest => do
    let contents ← inside.compile (index + 1) true
    let close := index + 1 + inside.flatten.length
    if inside.isNil then .error (.unsupportedEntry close .emptyGroup)
    else
      let after ← rest.compile (close + 1) false
      .ok (joint first (c.getD joining) ++ enclosed contents ++ after)

/-- The pass over a leaf. -/
theorem compileFrom_leaf (l : Leaf) (index : Nat) (first : Bool) (depth : Nat)
    (es : List Entry) :
    compileFrom r t joining index first depth (l.entry :: es) = (do
      let body ← l.compile r t index
      let after ← compileFrom r t joining (index + 1) false depth es
      .ok (joint first (l.connective?.getD joining) ++ enclosed body ++ after)) := by
  cases l with
  | raw clause =>
    cases h : clause.check index <;>
      simp [Leaf.entry, Leaf.compile, Leaf.connective?, compileFrom, h, bind, Except.bind]
  | column c => rfl

/-- **The pass compiles a forest and goes on behind it.** -/
theorem compileFrom_flatten_append (f : Forest) (index : Nat) (first : Bool) (depth : Nat)
    (es : List Entry) :
    compileFrom r t joining index first depth (f.flatten ++ es) = (do
      let q ← f.compile r t joining index first
      let after ← compileFrom r t joining (index + f.flatten.length) (first && f.isNil) depth es
      .ok (q ++ after)) := by
  induction f generalizing index first depth es with
  | nil =>
    cases h : compileFrom r t joining index first depth es <;>
      simp [flatten, compile, isNil, h, bind, Except.bind]
  | leaf l rest ih =>
    have next : index + 1 + rest.flatten.length = index + (rest.flatten.length + 1) := by omega
    rw [flatten, List.cons_append, compileFrom_leaf, compile, List.length_cons]
    cases l.compile r t index with
    | error e => rfl
    | ok body =>
      simp only [bind, Except.bind, ih, isNil, Bool.false_and, Bool.and_false, next]
      cases rest.compile r t joining (index + 1) false with
      | error e => rfl
      | ok q =>
        cases compileFrom r t joining (index + (rest.flatten.length + 1)) false depth es with
        | error e => rfl
        | ok after => simp only [Query.append_assoc]
  | group c inside rest ihInside ihRest =>
    have line : (group c inside rest).flatten ++ es =
        .opening c :: (inside.flatten ++ .closing :: (rest.flatten ++ es)) := by
      simp [flatten]
    have next : index + 1 + inside.flatten.length + 1 + rest.flatten.length =
        index + (group c inside rest).flatten.length := by
      simp only [flatten, List.length_cons, List.length_append]
      omega
    rw [line, compileFrom, ihInside, compile, ← next]
    cases inside.compile r t joining (index + 1) true with
    | error e => rfl
    | ok contents =>
      cases h : inside.isNil with
      | true => rfl
      | false =>
        simp only [bind, Except.bind, compileFrom, ihRest, isNil, Bool.false_and, Bool.and_false,
          Bool.false_eq_true, if_false, Nat.add_eq_zero_iff, Nat.one_ne_zero, and_false,
          Nat.add_sub_cancel]
        cases rest.compile r t joining (index + 1 + inside.flatten.length + 1) false with
        | error e => rfl
        | ok q =>
          cases compileFrom r t joining
              (index + 1 + inside.flatten.length + 1 + rest.flatten.length) false depth es with
          | error e => rfl
          | ok after => simp only [enclosed, Query.append_assoc]

/-! ## When a forest compiles -/

variable {r t joining}

/-- A forest that compiles has no empty group, and all its leaves compile. -/
theorem noEmptyGroup_of_compile {f : Forest} {index : Nat} {first : Bool} {q : Query}
    (h : f.compile r t joining index first = .ok q) :
    f.NoEmptyGroup ∧ ∀ l ∈ f.leaves, ∃ body, l.compile r t 0 = .ok body := by
  induction f generalizing index first q with
  | nil => exact ⟨trivial, fun l hl => absurd hl List.not_mem_nil⟩
  | leaf l rest ih =>
    obtain ⟨body, hbody, h⟩ := bind_eq_ok_iff.mp h
    obtain ⟨after, hafter, -⟩ := bind_eq_ok_iff.mp h
    obtain ⟨hgroups, hleaves⟩ := ih hafter
    refine ⟨hgroups, fun m hm => ?_⟩
    rcases List.mem_cons.mp hm with rfl | hm
    · exact ⟨body, Leaf.compile_eq_ok hbody 0⟩
    · exact hleaves m hm
  | group c inside rest ihInside ihRest =>
    obtain ⟨contents, hcontents, h⟩ := bind_eq_ok_iff.mp h
    by_cases hnil : inside.isNil = true
    · simp [hnil] at h
    · simp only [hnil, Bool.false_eq_true, if_false] at h
      obtain ⟨after, hafter, -⟩ := bind_eq_ok_iff.mp h
      obtain ⟨hinside, hinsideLeaves⟩ := ihInside hcontents
      obtain ⟨hrest, hrestLeaves⟩ := ihRest hafter
      refine ⟨⟨fun hn => hnil (isNil_iff.mpr hn), hinside, hrest⟩, fun l hl => ?_⟩
      rcases List.mem_append.mp hl with hl | hl
      · exact hinsideLeaves l hl
      · exact hrestLeaves l hl

/-- A forest without empty groups whose leaves compile is compiled into its text, with the cells of
the leaves from left to right. -/
theorem compile_of_noEmptyGroup {f : Forest} (hgroups : f.NoEmptyGroup) {body : Leaf → Query}
    (hleaves : ∀ l ∈ f.leaves, l.compile r t 0 = .ok (body l)) (index : Nat) (first : Bool) :
    f.compile r t joining index first =
      .ok ⟨f.text joining (fun l => (body l).sql) first,
        f.leaves.flatMap fun l => (body l).values⟩ := by
  induction f generalizing index first with
  | nil => rfl
  | leaf l rest ih =>
    have hl := Leaf.compile_eq_ok (hleaves l List.mem_cons_self) index
    have hrest := ih hgroups (fun m hm => hleaves m (List.mem_cons_of_mem l hm)) (index + 1) false
    simp only [compile, hl, hrest, bind, Except.bind]
    congr 1
    ext1
    · simp [text, sql_joint, String.append_assoc]
    · simp [leaves]
  | group c inside rest ihInside ihRest =>
    obtain ⟨hne, hinside, hrest⟩ := hgroups
    have hcontents := ihInside hinside (fun m hm => hleaves m (List.mem_append_left _ hm))
      (index + 1) true
    have hafter := ihRest hrest (fun m hm => hleaves m (List.mem_append_right _ hm))
      (index + 1 + inside.flatten.length + 1) false
    have hnil : inside.isNil = false := by
      rw [← Bool.not_eq_true, isNil_iff]
      exact hne
    simp only [compile, hcontents, hnil, hafter, bind, Except.bind, Bool.false_eq_true, if_false]
    congr 1
    ext1
    · simp [text, sql_joint, String.append_assoc]
    · simp [leaves]

/-! ## A line that is accepted is the line of a forest -/

/-- A line that the pass accepts inside some open groups is a forest, and for each open group its
closing bracket with a forest behind it. -/
theorem exists_forests_of_compileFrom {es : List Entry} {index : Nat} {first : Bool} {depth : Nat}
    {q : Query} (h : compileFrom r t joining index first depth es = .ok q) :
    ∃ (f : Forest) (fs : List Forest), fs.length = depth ∧
      es = f.flatten ++ fs.flatMap fun g => .closing :: g.flatten := by
  induction es generalizing index first depth q with
  | nil =>
    by_cases hdepth : depth = 0
    · exact ⟨nil, [], hdepth.symm, rfl⟩
    · simp [compileFrom, hdepth] at h
  | cons e es ih =>
    -- A leaf stands in front of the forest that follows it.
    have before : ∀ l : Leaf, l.entry = e → ∃ (f : Forest) (fs : List Forest),
        fs.length = depth ∧ e :: es = f.flatten ++ fs.flatMap fun g => .closing :: g.flatten := by
      rintro l rfl
      rw [compileFrom_leaf] at h
      obtain ⟨body, -, h⟩ := bind_eq_ok_iff.mp h
      obtain ⟨after, hafter, -⟩ := bind_eq_ok_iff.mp h
      obtain ⟨f, fs, hlength, rfl⟩ := ih hafter
      exact ⟨leaf l f, fs, hlength, rfl⟩
    cases e with
    | raw clause => exact before (.raw clause) rfl
    | column c => exact before (.column c) rfl
    | opening c =>
      obtain ⟨contents, hcontents, -⟩ := bind_eq_ok_iff.mp h
      obtain ⟨inside, fs, hlength, rfl⟩ := ih hcontents
      match fs, hlength with
      | rest :: fs, hlength =>
        refine ⟨group c inside rest, fs, Nat.succ.inj hlength, ?_⟩
        simp [flatten]
    | closing =>
      rw [compileFrom] at h
      split at h
      · cases h
      · rename_i hdepth
        split at h
        · cases h
        · obtain ⟨after, hafter, -⟩ := bind_eq_ok_iff.mp h
          obtain ⟨f, fs, hlength, rfl⟩ := ih hafter
          refine ⟨nil, f :: fs, ?_, rfl⟩
          rw [List.length_cons, hlength]
          omega

/-- A filter that compiles is the line of a forest. -/
theorem exists_forest_of_compile {filter : List Entry} {q : Query}
    (h : Condition.compile r t joining filter = .ok q) : ∃ f : Forest, f.flatten = filter := by
  obtain ⟨f, fs, hlength, rfl⟩ := exists_forests_of_compileFrom h
  rw [List.length_eq_zero_iff] at hlength
  exact ⟨f, by rw [hlength, List.flatMap_nil, List.append_nil]⟩

/-- The line of a forest compiles as the forest does. -/
theorem compile_flatten (f : Forest) :
    Condition.compile r t joining f.flatten = f.compile r t joining 0 true := by
  have h := compileFrom_flatten_append r t joining f 0 true 0 []
  rw [List.append_nil] at h
  rw [Condition.compile, h]
  cases f.compile r t joining 0 true with
  | error e => rfl
  | ok q => simp [compileFrom, bind, Except.bind]

/-! ## A line is the line of one forest -/

/-- Nothing more of a forest: the line is over, or a group is closed. -/
def Over (es : List Entry) : Prop := es = [] ∨ ∃ rest, es = .closing :: rest

theorem not_over_leaf (l : Leaf) (es : List Entry) : ¬ Over (l.entry :: es) := by
  rintro (h | ⟨rest, h⟩)
  · cases h
  · cases l <;> cases h

theorem not_over_opening (c : Option Connective) (es : List Entry) : ¬ Over (.opening c :: es) := by
  rintro (h | ⟨rest, h⟩) <;> cases h

theorem flatten_append_inj {f g : Forest} {es others : List Entry} (hes : Over es)
    (hothers : Over others) (h : f.flatten ++ es = g.flatten ++ others) : f = g ∧ es = others := by
  induction f generalizing g es others with
  | nil =>
    cases g with
    | nil => exact ⟨rfl, h⟩
    | leaf l rest =>
      rw [flatten, List.nil_append] at h
      exact absurd (h ▸ hes) (not_over_leaf l _)
    | group c inside rest =>
      rw [flatten, List.nil_append] at h
      exact absurd (h ▸ hes) (not_over_opening c _)
  | leaf l rest ih =>
    cases g with
    | nil =>
      rw [flatten, flatten, List.nil_append] at h
      exact absurd (h ▸ hothers) (not_over_leaf l _)
    | leaf m rest' =>
      obtain ⟨hentry, h⟩ := List.cons.inj h
      obtain ⟨rfl, hrest⟩ := ih hes hothers h
      rw [Leaf.entry_injective hentry]
      exact ⟨rfl, hrest⟩
    | group c inside rest' => cases l <;> cases h
  | group c inside rest ihInside ihRest =>
    cases g with
    | nil =>
      rw [flatten, flatten, List.nil_append] at h
      exact absurd (h ▸ hothers) (not_over_opening c _)
    | leaf l rest' => cases l <;> cases h
    | group d inside' rest' =>
      simp only [flatten, List.cons_append, List.append_assoc] at h
      obtain ⟨hopening, hcontents⟩ := List.cons.inj h
      cases hopening
      obtain ⟨rfl, hclosing⟩ := ihInside (.inr ⟨_, rfl⟩) (.inr ⟨_, rfl⟩) hcontents
      obtain ⟨rfl, hrest⟩ := ihRest hes hothers (List.cons.inj hclosing).2
      exact ⟨rfl, hrest⟩

/-- **A line is the line of one forest at most.** -/
theorem flatten_injective {f g : Forest} (h : f.flatten = g.flatten) : f = g := by
  refine (flatten_append_inj (.inl rfl) (.inl rfl) ?_).1
  rw [h]

end Forest

/-! ## Compiling a filter on its own -/

theorem enclosed_injective {a b : Query} (h : enclosed a = enclosed b) : a = b := by
  ext1
  · have hsql := congrArg (fun q => q.sql.toList) h
    exact String.toList_inj.mp (by simpa using hsql)
  · have hvalues := congrArg Query.values h
    simpa using hvalues

namespace Registry

variable {r : Registry} {table : String} {connective : Option Connective}

/-- A filter with entries compiles on a table that is registered, into a condition. -/
theorem compileWhere_eq_ok_iff {filter : List Entry} (hne : filter ≠ []) {answer : Option Query} :
    r.compileWhere table filter connective = .ok answer ↔
      ∃ t, r.table? table = some t ∧ ∃ q,
        Condition.compile r t (connective.getD .and) filter = .ok q ∧ some q = answer := by
  have hempty : filter.isEmpty = false := by
    rw [List.isEmpty_eq_false_iff]
    exact hne
  simp only [compileWhere, bind_eq_ok_iff, target_eq_ok_iff, hempty, Bool.false_eq_true, if_false,
    map_eq_ok_iff]

/-- A leaf that is a filter of its own is its condition in parentheses. -/
theorem compileWhere_leaf_eq_ok_iff {l : Leaf} {body : Query} :
    r.compileWhere table [l.entry] connective = .ok (some (enclosed body)) ↔
      ∃ t, r.table? table = some t ∧ l.compile r t 0 = .ok body := by
  rw [compileWhere_eq_ok_iff (List.cons_ne_nil _ _)]
  refine exists_congr fun t => and_congr_right fun _ => ?_
  have line : [l.entry] = (Forest.leaf l .nil).flatten := rfl
  have single : ∀ b : Query,
      joint true (l.connective?.getD (connective.getD .and)) ++ enclosed b ++ .empty =
        enclosed b := by
    intro b
    rw [Query.append_empty]
    exact Query.empty_append _
  rw [line, Forest.compile_flatten]
  simp only [Forest.compile, bind_eq_ok_iff]
  constructor
  · rintro ⟨q, ⟨b, hb, after, hafter, hq⟩, hanswer⟩
    cases hafter
    rw [Except.ok.injEq, single] at hq
    rw [Option.some.injEq, ← hq] at hanswer
    rw [← enclosed_injective hanswer]
    exact hb
  · intro hb
    exact ⟨enclosed body, ⟨body, hb, .empty, rfl, by rw [single]⟩, rfl⟩

/-- The forest of a filter that compiles, the conditions of its leaves, and what is made of them. -/
theorem exists_forest_of_compileWhere {filter : List Entry} (hne : filter ≠ [])
    {answer : Option Query} (h : r.compileWhere table filter connective = .ok answer) :
    ∃ t, r.table? table = some t ∧ ∃ (f : Forest) (body : Leaf → Query),
      f.flatten = filter ∧ f.NoEmptyGroup ∧ (∀ l ∈ f.leaves, l.compile r t 0 = .ok (body l)) ∧
        answer = some ⟨f.text (connective.getD .and) (fun l => (body l).sql) true,
          f.leaves.flatMap fun l => (body l).values⟩ := by
  obtain ⟨t, ht, q, hq, rfl⟩ := (compileWhere_eq_ok_iff hne).mp h
  obtain ⟨f, rfl⟩ := Forest.exists_forest_of_compile hq
  rw [Forest.compile_flatten] at hq
  obtain ⟨hgroups, hleaves⟩ := Forest.noEmptyGroup_of_compile hq
  -- Outside the forest the choice of a condition does not matter.
  let body : Leaf → Query := fun l => ((l.compile r t 0).toOption).getD .empty
  have hbody : ∀ l ∈ f.leaves, l.compile r t 0 = .ok (body l) := by
    intro l hl
    obtain ⟨b, hb⟩ := hleaves l hl
    simp only [body, hb, toOption_ok, Option.getD_some]
  rw [Forest.compile_of_noEmptyGroup hgroups hbody, Except.ok.injEq] at hq
  exact ⟨t, ht, f, body, rfl, hgroups, hbody, by rw [hq]⟩

/-- **A filter compiles exactly when it is the line of a forest without empty groups each of whose
leaves compiles as a filter of its own.**  The condition is then the text of the forest, and its
cells are those of the leaves from left to right. -/
theorem compileWhere_eq_ok_iff_forest (r : Registry) (table : String)
    (connective : Option Connective) {filter : List Entry} (hne : filter ≠ [])
    (answer : Option Query) :
    r.compileWhere table filter connective = .ok answer ↔
      ∃ (f : Forest) (body : Leaf → Query), f.flatten = filter ∧ f.NoEmptyGroup ∧
        (∀ l ∈ f.leaves,
          r.compileWhere table [l.entry] connective = .ok (some (enclosed (body l)))) ∧
        answer = some ⟨f.text (connective.getD .and) (fun l => (body l).sql) true,
          f.leaves.flatMap fun l => (body l).values⟩ := by
  constructor
  · intro h
    obtain ⟨t, ht, f, body, hflatten, hgroups, hbody, rfl⟩ := exists_forest_of_compileWhere hne h
    exact ⟨f, body, hflatten, hgroups,
      fun l hl => compileWhere_leaf_eq_ok_iff.mpr ⟨t, ht, hbody l hl⟩, rfl⟩
  · rintro ⟨f, body, rfl, hgroups, hleaves, rfl⟩
    -- A forest without empty groups has a leaf, which knows the table.
    obtain ⟨l, hl⟩ := Forest.exists_leaf hgroups hne
    obtain ⟨t, ht, -⟩ := compileWhere_leaf_eq_ok_iff.mp (hleaves l hl)
    have hbody : ∀ l ∈ f.leaves, l.compile r t 0 = .ok (body l) := by
      intro l hl
      obtain ⟨t', ht', h⟩ := compileWhere_leaf_eq_ok_iff.mp (hleaves l hl)
      rw [ht, Option.some.injEq] at ht'
      rwa [← ht'] at h
    refine (compileWhere_eq_ok_iff hne).mpr ⟨t, ht, _, ?_, rfl⟩
    rw [Forest.compile_flatten, Forest.compile_of_noEmptyGroup hgroups hbody]

/-- A filter with a group in it: the group is joined by its own connective, and the joiner of its
first clause is left out. -/
def ageOrCity : Forest :=
  .leaf (.column ⟨"age", ">", some (.value (.integer 18)), none⟩)
    (.group (some .or)
      (.leaf (.column ⟨"city", "=", some (.value (.text "Berlin")), some .not⟩)
        (.leaf (.raw ⟨" age < ? ", [.integer 5]⟩) .nil))
      .nil)

theorem compileWhere_ageOrCity :
    ageOrCity.flatten ≠ [] ∧
      ofUsers.compileWhere "user" ageOrCity.flatten (some .xor) =
        .ok (some ⟨"(age > ?) OR ((city = ?) <> (age < ?))",
          [.integer 18, .text "Berlin", .integer 5]⟩) := by
  have hne : ageOrCity.flatten ≠ [] := List.cons_ne_nil _ _
  refine ⟨hne, (compileWhere_eq_ok_iff_forest ofUsers "user" (some .xor) hne _).mpr ?_⟩
  refine ⟨ageOrCity, fun l => ((l.compile ofUsers users 0).toOption).getD .empty, rfl, ?_, ?_, ?_⟩
  · exact ⟨nofun, trivial, trivial⟩
  · simp only [ageOrCity, Forest.leaves, List.cons_append, List.nil_append, List.mem_cons,
      List.not_mem_nil, or_false]
    rintro l (rfl | rfl | rfl) <;> rfl
  · rfl

end Registry

end FilterStore
