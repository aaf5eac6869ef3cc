import FilterStore.Engine.Evaluation
import FilterStore.Proofs.Outcome
import FilterStore.Sql.Reader

/-!
# Selecting rows of a table

A query looks at its condition in four turns, the first of them before any row, and each turn looks
at the conjuncts that it picks.  Where that comes to saying of each row whether it is picked
(`Picks`), the query answers the picked rows one by one (`queryRows_plain`), or the group of them
(`queryRows_group`).  A single conjunct that looks at the row is looked at in just one turn, so
nothing but its truth in the row matters (`Decides.picks`).
-/

namespace FilterStore.Engine

open Sql (Expr Fault Projection Source always)

variable {w : World} {r : Relation} {source : Source}

/-! ## Gathering -/

/-- Items that pass a test give their results. -/
theorem gather_map {ε α β γ : Type} {test : α → Except ε Bool} {result : α → Except ε β}
    {f : γ → α} {p : γ → Bool} {xs : List γ} (h : ∀ x ∈ xs, test (f x) = .ok (p x)) :
    gather test result none 0 (xs.map f) = (xs.filter p).mapM fun x => result (f x) := by
  induction xs with
  | nil => rfl
  | cons x xs ih =>
    have rest := ih fun y hy => h y (List.mem_cons_of_mem x hy)
    rw [List.map_cons]
    unfold gather
    rw [h x List.mem_cons_self, ok_bind, rest]
    cases passed : p x with
    | true =>
      rw [List.filter_cons_of_pos passed, List.mapM_cons, ← rest]
      rfl
    | false =>
      rw [List.filter_cons_of_neg (by simp [passed])]
      rfl

/-! ## Where rows come from -/

section Sources

variable (found : w.relation source.table = .ok r)

include found

theorem candidates_of_relation (frames : List Frame) :
    candidates w frames (some source) =
      .ok (r.rows.map fun row => ⟨r.shape source.name, row⟩ :: frames) := by
  rw [candidates, found]
  rfl

theorem sourceShapes_of_relation : sourceShapes w (some source) = [r.shape source.name] := by
  rw [sourceShapes, World.relation?, found]
  rfl

end Sources

/-! ## Conditions -/

/-- What is not picked is not looked at. -/
theorem eval_of_passes {d : Demand} {e : Expr} (h : d.passes e = true) (frames : List Frame)
    (group : List (List Frame)) : eval w d frames group e = .ok (.integer 1) := by
  unfold eval
  rw [if_pos h]

theorem eval_always (w : World) (d : Demand) (frames : List Frame) (group : List (List Frame)) :
    eval w d frames group (.literal (.integer 1)) = .ok (.integer 1) := by
  unfold eval
  split <;> rfl

/-- Whether a condition holds in a row, turn by turn. -/
def holdsInTurns (w : World) (sought : List String) (own : List Shape) (condition : Expr)
    (frames : List Frame) : Except Fault Bool := do
  let a ← eval w (.ofTurn sought own .lookUp) frames [] condition
  if truth a = some true then
    let b ← eval w (.ofTurn sought own .plain) frames [] condition
    if truth b = some true then
      let c ← eval w (.ofTurn sought own .last) frames [] condition
      .ok (truth c = some true : Bool)
    else .ok false
  else .ok false

/-- A condition picks rows of a table. -/
structure Picks (w : World) (sought : List String) (s : Shape) (rows : List Row) (condition : Expr)
    (p : Row → Bool) : Prop where
  ahead : eval w (.ofTurn sought [s] .ahead) [] [] condition = .ok (.integer 1)
  turns : ∀ row ∈ rows, holdsInTurns w sought [s] condition [⟨s, row⟩] = .ok (p row)

/-- Without a condition all rows are picked. -/
theorem picks_always (w : World) (sought : List String) (s : Shape) (rows : List Row) :
    Picks w sought s rows always fun _ => true where
  ahead := eval_always ..
  turns _ _ := by simp only [holdsInTurns, always, eval_always]; rfl

/-- A condition is decided by rows: it is a single conjunct, looks at the row, and holds in a row or
does not. -/
structure Decides (w : World) (s : Shape) (rows : List Row) (condition : Expr) (p : Row → Bool) :
    Prop where
  single : ∀ picked, (Demand.holds picked).passes condition = !picked condition
  looks : isApart [s] condition = false
  holds : ∀ row ∈ rows, ∀ outer demand, eval w demand (⟨s, row⟩ :: outer) [] condition =
    .ok (Value.flag (demand.passes condition || p row))

namespace Decides

variable {s : Shape} {rows : List Row} {condition : Expr} {p : Row → Bool}
  (h : Decides w s rows condition p) (sought : List String)

include h

theorem turnOf_ne_ahead : turnOf sought [s] condition ≠ .ahead := by
  unfold turnOf
  rw [if_neg (by rw [h.looks]; exact Bool.false_ne_true)]
  split
  · exact nofun
  · split <;> exact nofun

theorem passes_ofTurn (turn : Turn) :
    (Demand.ofTurn sought [s] turn).passes condition =
      !decide (turnOf sought [s] condition = turn) :=
  h.single _

/-- It is looked at in a single turn, and that is not the one before any row. -/
theorem picks : Picks w sought s rows condition p where
  ahead := by
    refine eval_of_passes ?_ [] []
    rw [h.passes_ofTurn, decide_eq_false (h.turnOf_ne_ahead sought), Bool.not_false]
  turns row hrow := by
    have behind := h.turnOf_ne_ahead sought
    simp only [holdsInTurns, h.holds row hrow, ok_bind, h.passes_ofTurn]
    generalize turnOf sought [s] condition = turn at behind
    cases turn with
    | ahead => exact absurd rfl behind
    | lookUp | plain | last => cases p row <;> rfl

end Decides

/-! ## Queries -/

section Queries

variable (found : w.relation source.table = .ok r) {condition : Expr} {p : Row → Bool}
  (picks : Picks w (soughtIn w (some source)) (r.shape source.name) r.rows condition p)
  {columns : List Projection} {guide : Expr}

include found picks

/-- A query answers the picked rows. -/
theorem queryRows_plain (plain : makesGroups columns [] = false) {result : Row → List Cell}
    (projected : ∀ row ∈ r.rows,
      project w [⟨r.shape source.name, row⟩] [] columns = .ok (result row)) :
    queryRows w [] false (.mk false columns (some source) condition [] always [] guide
      Sql.unlimited Sql.noOffset) = .ok ((r.rows.filter p).map result) := by
  have limit : limitOf (.integer (-1)) = .ok (-1) := rfl
  have offset : limitOf (.integer 0) = .ok 0 := rfl
  have literal : ∀ n, eval w .value [] [] (.literal (.integer n)) = .ok (.integer n) :=
    fun _ => rfl
  have holds : truth (.integer 1) = some true := rfl
  unfold queryRows
  simp only [Sql.unlimited, Sql.noOffset, literal, ok_bind, limit, offset,
    candidates_of_relation found, sourceShapes_of_relation found, picks.ahead, holds, plain,
    if_true, Bool.false_eq_true, if_false, List.isEmpty_nil]
  exact (gather_map picks.turns).trans
    (mapM_of_ok fun row hrow => projected row (List.mem_filter.mp hrow).1)

/-- A query answers the group of the picked rows. -/
theorem queryRows_group (grouped : makesGroups columns [] = true) {guided : Option (List Frame)}
    {result : List Cell}
    (led : guidedBy w ((r.rows.filter p).map fun row => [⟨r.shape source.name, row⟩]) guide =
      .ok guided)
    (projected : project w (guided.getD (nullFrames w [] (some source)))
      ((r.rows.filter p).map fun row => [⟨r.shape source.name, row⟩]) columns = .ok result) :
    queryRows w [] false (.mk false columns (some source) condition [] always [] guide
      Sql.unlimited Sql.noOffset) = .ok [result] := by
  have limit : limitOf (.integer (-1)) = .ok (-1) := rfl
  have offset : limitOf (.integer 0) = .ok 0 := rfl
  have literal : ∀ n, eval w .value [] [] (.literal (.integer n)) = .ok (.integer n) :=
    fun _ => rfl
  have holds : truth (.integer 1) = some true := rfl
  have group : gather (holdsInTurns w (soughtIn w (some source)) [r.shape source.name] condition)
      Except.ok none 0 (r.rows.map fun row => [⟨r.shape source.name, row⟩]) =
        .ok ((r.rows.filter p).map fun row => [⟨r.shape source.name, row⟩]) :=
    (gather_map picks.turns).trans (mapM_of_ok fun _ _ => rfl)
  have keys : ∀ frames group row, sortKeys w frames group row [] = .ok [] := fun _ _ _ => rfl
  have one : ∀ (sortings : List Sorting) (row : List Cell × List Cell),
      sorted sortings [row] = [row] := fun _ _ => List.mergeSort_singleton _
  unfold queryRows
  simp only [Sql.unlimited, Sql.noOffset, literal, ok_bind, limit, offset,
    candidates_of_relation found, sourceShapes_of_relation found, picks.ahead, holds, grouped,
    if_true, List.isEmpty_nil]
  show (gather (holdsInTurns w (soughtIn w (some source)) [r.shape source.name] condition)
    Except.ok none 0 (r.rows.map fun row => [⟨r.shape source.name, row⟩]) >>= _) = _
  rw [group]
  simp only [ok_bind, List.mapM_cons, List.mapM_nil, led, projected, always, eval_always, holds,
    if_true, keys]
  show Except.ok (cut (-1) 0 (List.map _ (sorted _ [([], result)]))) = _
  rw [one]
  rfl

/-- The picked rows can be counted. -/
theorem queryRows_count (name : Sql.FunctionName) (heading : String) (named : Bool) :
    queryRows w [] false (.mk false [.value (.countRows name) heading named] (some source)
      condition [] always [] (.literal .null) Sql.unlimited Sql.noOffset) =
        .ok [[.integer (Int64.ofNat (r.rows.countP p))]] := by
  refine queryRows_group found picks rfl rfl ?_
  rw [project, List.countP_eq_length_filter, ← List.length_map]
  rfl

end Queries

end FilterStore.Engine
