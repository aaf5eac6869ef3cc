import FilterStore.Sql.Parts

/-!
# Names of selected values

A selected value can be given a name.  In the other parts of its query the name stands for the
value: among the terms of an order always, elsewhere unless there is a column of that name.  The
terms of an order, and of groups, can also name a value by its place, counted from one.
-/

namespace FilterStore.Sql

/-- The selected value that is given a name. -/
def valueNamed? (columns : List Projection) (c : ColumnName) : Option Expr :=
  if c.table.isSome then none
  else columns.findSome? fun
    | .value e heading true => if Text.sameName heading c.name then some e else none
    | _ => none

/-- The selected value at a place, if all that stand before it are single values. -/
def valueNumbered? (columns : List Projection) (n : Int64) : Option Expr :=
  let single := columns.takeWhile fun | .value .. => true | .all _ => false
  if n < 1 then none
  else
    match single[(n - 1).toNatClampNeg]? with
    | some (.value e ..) => some e
    | _ => none

mutual

/-- An expression in which names may stand for selected values. -/
def withNames (columns : List Projection) : Expr → Expr
  | .column c =>
    match valueNamed? columns c with
    | some e => .named c e
    | none => .column c
  | .negate e => .negate (withNames columns e)
  | .complement e => .complement (withNames columns e)
  | .plus e => .plus (withNames columns e)
  | .not e => .not (withNames columns e)
  | .binary op a b => .binary op (withNames columns a) (withNames columns b)
  | .isNull e => .isNull (withNames columns e)
  | .notNull e => .notNull (withNames columns e)
  | .like a b => .like (withNames columns a) (withNames columns b)
  | .likeEscape a b c =>
    .likeEscape (withNames columns a) (withNames columns b) (withNames columns c)
  | .glob a b => .glob (withNames columns a) (withNames columns b)
  | .regexp a b => .regexp (withNames columns a) (withNames columns b)
  | .between a b c => .between (withNames columns a) (withNames columns b) (withNames columns c)
  | .isIn e items => .isIn (withNames columns e) (allWithNames columns items)
  | .inRows e s => .inRows (withNames columns e) s
  | .cast e a => .cast (withNames columns e) a
  | .collate e c => .collate (withNames columns e) c
  | .choice branches e => .choice (branchesWithNames columns branches) (withNames columns e)
  | .choiceOf a branches e =>
    .choiceOf (withNames columns a) (branchesWithNames columns branches) (withNames columns e)
  | .call f arguments => .call f (allWithNames columns arguments)
  | .aggregate f name distinct e => .aggregate f name distinct (withNames columns e)
  | e => e

/-- Expressions in which names may stand for selected values. -/
def allWithNames (columns : List Projection) : List Expr → List Expr
  | [] => []
  | e :: rest => withNames columns e :: allWithNames columns rest

/-- Branches in which names may stand for selected values. -/
def branchesWithNames (columns : List Projection) : List Branch → List Branch
  | [] => []
  | .mk test value :: rest =>
    .mk (withNames columns test) (withNames columns value) :: branchesWithNames columns rest

end

/-- A term of groups. -/
def groupTerm (columns : List Projection) : Expr → Expr
  | .place n offset => (valueNumbered? columns n).getD (.place n offset)
  | e => withNames columns e

/-- A term of an order. -/
def sortKey (columns : List Projection) : Expr → Expr
  | .column c => (valueNamed? columns c).getD (.column c)
  | .collate e c => .collate (sortKey columns e) c
  | e => groupTerm columns e

/-- A term of an order with its key in its place. -/
def sortTerm (columns : List Projection) : SortTerm → SortTerm
  | .mk e descending greatNull => .mk (sortKey columns e) descending greatNull

/-- The value of a selected column. -/
def valueOf? : Projection → Option Expr
  | .value e .. => some e
  | .all _ => none

/-- A query whose other parts may name its selected values. -/
def namedSelect (distinct : Bool) (columns : List Projection) (source : Option Source)
    (condition : Expr) (groups : List Expr) (having : Expr) (order : List SortTerm)
    (limit offset : Expr) : Select :=
  let having := withNames columns having
  let order := order.map (sortTerm columns)
  let keys := order.map fun | .mk e .. => e
  .mk distinct columns source (withNames columns condition) (groups.map (groupTerm columns)) having
    order (guideAmong (columns.filterMap valueOf? ++ keys ++ [having])) limit offset

end FilterStore.Sql
