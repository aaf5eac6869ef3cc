import FilterStore.Sql.Statement

/-!
# What expressions are made of

The parts of an expression are the expression itself and the parts of all expressions in it, from
left to right.  What stands in the queries inside of an expression counts only if it is asked for.
-/

namespace FilterStore.Sql

mutual

/-- The parts of an expression but the expression itself; with `deep` also those in its queries. -/
def Expr.within (deep : Bool) : Expr → List Expr
  | .negate e | .complement e | .plus e | .not e | .isNull e | .notNull e | .cast e _
  | .collate e _ | .named _ e | .aggregate _ _ _ e | .raise _ e => e :: e.within deep
  | .binary _ a b | .like a b | .glob a b | .regexp a b =>
    a :: a.within deep ++ b :: b.within deep
  | .likeEscape a b c | .between a b c =>
    a :: a.within deep ++ b :: b.within deep ++ c :: c.within deep
  | .isIn e items => e :: e.within deep ++ partsOfAll deep items
  | .inRows e s => e :: e.within deep ++ (if deep then s.within else [])
  | .hasRows s | .first s => if deep then s.within else []
  | .choice branches e => partsOfBranches deep branches ++ e :: e.within deep
  | .choiceOf a branches e =>
    a :: a.within deep ++ partsOfBranches deep branches ++ e :: e.within deep
  | .call _ arguments => partsOfAll deep arguments
  | .literal _ | .parameter .. | .column _ | .place .. | .countRows _ | .leaveOut => []

/-- The parts of expressions. -/
def partsOfAll (deep : Bool) : List Expr → List Expr
  | [] => []
  | e :: rest => e :: e.within deep ++ partsOfAll deep rest

/-- The parts of what stands in branches. -/
def partsOfBranches (deep : Bool) : List Branch → List Expr
  | [] => []
  | .mk test value :: rest =>
    test :: test.within deep ++ value :: value.within deep ++ partsOfBranches deep rest

/-- The parts of what stands in a query, and in the queries inside of it. -/
def Select.within : Select → List Expr
  | .mk _ columns _ condition groups having order _ limit offset =>
    partsOfColumns columns ++ condition :: condition.within true ++ partsOfAll true groups ++
      having :: having.within true ++ partsOfOrder order ++ limit :: limit.within true ++
      offset :: offset.within true

/-- The parts of selected values. -/
def partsOfColumns : List Projection → List Expr
  | [] => []
  | .all _ :: rest => partsOfColumns rest
  | .value e .. :: rest => e :: e.within true ++ partsOfColumns rest

/-- The parts of the terms of an order. -/
def partsOfOrder : List SortTerm → List Expr
  | [] => []
  | .mk e .. :: rest => e :: e.within true ++ partsOfOrder rest

end

/-- An expression and the parts of what it is made of. -/
def Expr.parts (deep : Bool) (e : Expr) : List Expr := e :: e.within deep

/-! ## Kinds of expressions -/

/-- The query inside of an expression. -/
def Expr.query? : Expr → Option Select
  | .inRows _ s | .hasRows s | .first s => some s
  | _ => none

/-- Whether there is a query in an expression. -/
def Expr.hasQuery (e : Expr) : Bool := (e.parts false).any fun p => p.query?.isSome

/-- Where an expression is written, in bytes, as far as its first name or call tells. -/
def Expr.offset? : Expr → Option Nat
  | .column c | .named c _ => some c.offset
  | .parameter _ n | .place _ n => some n
  | .call f _ | .countRows f | .aggregate _ f _ _ => some f.offset
  | .negate e | .complement e | .plus e | .not e | .isNull e | .notNull e | .binary _ e _
  | .between e _ _ | .isIn e _ | .inRows e _ | .cast e _ | .collate e _ | .choiceOf e _ _ =>
    e.offset?
  | _ => none

/-- A query and all queries inside of it, each before those it contains. -/
def Select.queries (s : Select) : List Select := s :: s.within.filterMap Expr.query?

/-- Whether an expression by itself, not looking at its parts, needs no row, no parameter and no
query. -/
def Expr.isFixedNode : Expr → Bool
  | .column name => name.isTruth
  | .parameter .. | .place .. | .inRows .. | .hasRows _ | .first _ | .countRows _ | .aggregate ..
  | .raise .. | .leaveOut => false
  | _ => true

/-- Whether an expression needs no row, no parameter and no query. -/
def Expr.isFixed (e : Expr) : Bool := (e.parts false).all Expr.isFixedNode

/-- Whether an expression by itself, not looking at its parts, is a function of a group. -/
def Expr.isAggregate : Expr → Bool
  | .countRows _ | .aggregate .. => true
  | _ => false

/-- Whether there is a function of a group in an expression. -/
def Expr.isGrouped (e : Expr) : Bool := (e.parts false).any Expr.isAggregate

/-- Whether one of the selected columns is a function of a group. -/
def hasGroup (columns : List Projection) : Bool :=
  columns.any fun
    | .all _ => false
    | .value e .. => e.isGrouped

/-- Whether a condition is the one that is taken where none is given. -/
def isAlways : Expr → Bool
  | .literal (.integer 1) => true
  | _ => false

/-- Whether an expression is a least or a greatest value of a group. -/
def Expr.isExtreme : Expr → Bool
  | .aggregate .min .. | .aggregate .max .. => true
  | _ => false

/-- The last of the least and greatest values in expressions, or else null. -/
def guideAmong (es : List Expr) : Expr :=
  ((es.flatMap (Expr.parts false)).reverse.find? Expr.isExtreme).getD (.literal .null)

/-! ## Parameters -/

/-- Whether an expression by itself, not looking at its parts, is a parameter. -/
def Expr.isParameter : Expr → Bool
  | .parameter .. => true
  | _ => false

/-- Whether there are parameters in expressions or in their queries. -/
def haveParameters (es : List Expr) : Bool := (es.flatMap (Expr.parts true)).any Expr.isParameter

/-- The expressions of a change. -/
def Change.exprs : Change → List Expr
  | .select s | .insert _ _ _ (.select s) => [.hasRows s]
  | .insert _ _ _ .defaults => []
  | .insert _ _ _ (.values rows) => rows.flatten
  | .update _ _ assignments condition => condition :: assignments.map (·.2)
  | .delete _ condition => [condition]

end FilterStore.Sql
