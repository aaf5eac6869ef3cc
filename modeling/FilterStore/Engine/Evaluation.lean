import FilterStore.Engine.Function
import FilterStore.Engine.Grouping
import FilterStore.Engine.Relation
import FilterStore.Sql.Parts

/-!
# Evaluating expressions and queries

An expression has a value in the world, for a list of frames, and --- where it stands in a query of
groups --- for the frames of all rows of the group.  Null stands for the unknown, so conditions have
three values.

A query takes the rows of its table for which the condition holds.  If it is a query of groups,
every group gives one row, and columns are then taken from the row that the guide names.  Otherwise
each row gives one.  Those rows are sorted and cut.  If there is nothing to be sorted, rows that are
cut off are not looked at.
-/

namespace FilterStore.Engine

open Sql (Aggregate BinaryOp Branch Collation ColumnName Expr Fault FunctionName Projection Select
  SortTerm Source)
open Text (sameName)

/-! ## The order of conjuncts

A condition is a conjunction, and a row that fails one conjunct is not held against the others.
Which of them come first matters, because some can fail with an error: those that do not look at the
row at all, then those by which rows are looked up, then the others from left to right, and last
those with queries that look at the row. -/

/-- When a conjunct is looked at. -/
inductive Turn
  /-- Before any row. -/
  | ahead
  | lookUp
  | plain
  | last
  deriving DecidableEq, Repr

/-- Whether an expression looks at no row of some shapes. -/
def isApart (own : List Shape) (e : Expr) : Bool :=
  (e.parts true).all fun
    | .column c | .named c _ => (target? own c).isNone
    | _ => true

/-- Whether an expression is a column by whose values rows are looked up. -/
def isSought (sought : List String) (own : List Shape) : Expr → Bool
  | .column c =>
    match target? own c with
    | some .rowId => true
    | some (.cell _ shape) => sought.any (sameName shape.name)
    | none => false
  | _ => false

/-- Whether rows are looked up by a comparison. -/
def BinaryOp.looksUp : BinaryOp → Bool
  | .equal | .is | .less | .lessEqual | .greater | .greaterEqual => true
  | _ => false

/-- Whether rows are looked up by a conjunct. -/
def looksUp (sought : List String) (own : List Shape) : Expr → Bool
  | .binary .or a b => looksUp sought own a && looksUp sought own b
  | .binary op a b =>
    BinaryOp.looksUp op &&
      (isSought sought own a && isApart own b || isSought sought own b && isApart own a)
  | .between e low high => isSought sought own e && isApart own low && isApart own high
  | .isIn e items => isSought sought own e && items.all (isApart own)
  | .inRows e s => isSought sought own e && isApart own (.hasRows s)
  | .isNull e => isSought sought own e
  | _ => false

/-- Whether there is a query in an expression that looks at rows of some shapes. -/
def hasDependentQuery (own : List Shape) (e : Expr) : Bool :=
  (e.parts false).any fun p => (p.query?.map fun s => !isApart own (.hasRows s)).getD false

/-- When a conjunct is looked at. -/
def turnOf (sought : List String) (own : List Shape) (e : Expr) : Turn :=
  if isApart own e then .ahead
  else if looksUp sought own e then .lookUp
  else if hasDependentQuery own e then .last
  else .plain

/-- What is wanted of the value of an expression.  Where it matters only whether a condition holds,
or fails, what cannot change that is not looked at. -/
inductive Demand
  | value
  /-- Whether those conjuncts hold that are picked. -/
  | holds (picked : Expr → Bool)
  | fails

namespace Demand

/-- Whether a condition holds. -/
def whole : Demand := holds fun _ => true

/-- Whether the conjuncts of a turn hold. -/
def ofTurn (sought : List String) (own : List Shape) (turn : Turn) : Demand :=
  holds fun e => turnOf sought own e = turn

/-- Whether an expression is a conjunct that is not picked. -/
def passes : Demand → Expr → Bool
  | holds _, .binary .and .. => false
  | holds picked, e => !picked e
  | _, _ => false

end Demand

/-! ## Rows and frames -/

/-- The integer a limit is. -/
def limitOf (c : Cell) : Except Fault Int :=
  match compacted (numbered c) with
  | .integer n => .ok n.toInt
  | _ => .error .datatypeMismatch

/-- The number of results that a limit stands for; none if there is no limit. -/
def wantedOf (limit : Int) : Option Nat := if limit < 0 then none else some limit.toNat

/-- The frames of a query, one list for each of its rows. -/
def candidates (w : World) (frames : List Frame) (source : Option Source) :
    Except Fault (List (List Frame)) :=
  match source with
  | none => .ok [frames]
  | some s =>
    (w.relation s.table).map fun r =>
      r.rows.map fun row => { shape := r.shape s.name, row } :: frames

/-- The columns by whose values the rows of a query are looked up. -/
def soughtIn (w : World) (source : Option Source) : List String :=
  ((source.bind fun s => w.relation? s.table).map Relation.sought).getD []

/-- The frames that stand for no row: all its cells are null. -/
def nullFrames (w : World) (frames : List Frame) (source : Option Source) : List Frame :=
  match source with
  | none => frames
  | some s =>
    match w.relation? s.table with
    | none => frames
    | some r => { shape := r.shape s.name, row := ⟨0, r.columns.map fun _ => .null⟩ } :: frames

/-- The shapes of frames. -/
def shapesOf (frames : List Frame) : List Shape := frames.map Frame.shape

/-- The value of a name. -/
def columnValue (frames : List Frame) (name : ColumnName) : Except Fault Cell :=
  match cell? frames name with
  | some c => .ok c
  | none =>
    match constant? name with
    | some c => .ok c
    | none => .error (.noSuchColumn (writtenName name) (some name.offset))

/-- The negative of a number. -/
def negative (c : Cell) : Cell := compute (· - ·) (· - ·) (.integer 0) c

/-- The truth value that an operand names which is no column. -/
def truthNamed? (frames : List Frame) : Expr → Option Bool
  | .column c => if c.isTruth && (cell? frames c).isNone then (constant? c).bind truth else none
  | _ => none

/-- Applies an operator to the values of two expressions.  A value can be tested for being one of
the truth values. -/
def applyTo (frames : List Frame) (w : World) (op : BinaryOp) (left right : Expr) (a b : Cell) :
    Cell :=
  let shapes := shapesOf frames
  match op, truthNamed? frames right with
  | .is, some t => Value.flag (truth a == some t)
  | .isNot, some t => Value.flag (truth a != some t)
  | _, _ =>
    applyBinary op (comparing shapes left right)
      (leaning (exprAffinity w shapes left) (exprAffinity w shapes right)) a b

/-- Compares the values of two expressions. -/
def compareTo (frames : List Frame) (w : World) (left right : Expr) (a b : Cell) :
    Option Ordering :=
  let shapes := shapesOf frames
  compareOperands (comparing shapes left right)
    (leaning (exprAffinity w shapes left) (exprAffinity w shapes right)) a b

/-- Whether the value of an expression is among those of items.  A single fixed item is compared as
an operand would be. -/
def amongItems (frames : List Frame) (w : World) (e : Expr) (items : List Expr) (a : Cell)
    (cells : List Cell) : Option Bool :=
  let shapes := shapesOf frames
  match items, cells with
  | [item], [c] =>
    if item.isFixed then (compareTo frames w e (.plus item) a c).map (· == .eq)
    else isAmong (exprCollation shapes e) (leaning (exprAffinity w shapes e) none) a cells
  | _, _ => isAmong (exprCollation shapes e) (leaning (exprAffinity w shapes e) none) a cells

/-- A function of the values of a group. -/
def applyToGroup (frames : List Frame) (function : Aggregate) (distinct : Bool) (e : Expr)
    (cells : List Cell) : Except Fault Cell :=
  let collation := exprCollation (shapesOf frames) e
  applyAggregate collation function (if distinct then distinctCells collation cells else cells)

/-- The names of the functions that are the first of their arguments that is not null. -/
def isFallback (function : FunctionName) : Bool :=
  ["COALESCE", "IFNULL"].contains (Text.upper function.name)

/-- The names of the functions that choose by conditions. -/
def isChoice (function : FunctionName) : Bool :=
  ["IIF", "IF"].contains (Text.upper function.name)

/-- The collations of selected columns. -/
def projectedCollations (own shapes : List Shape) (columns : List Projection) : List Collation :=
  columns.flatMap fun
    | .all _ => own.flatMap fun s => s.columns.map ColumnShape.collation
    | .value e .. => [exprCollation (own ++ shapes) e]

/-- How the terms of an order are sorted. -/
def sortings (own shapes : List Shape) (columns : List Projection) (order : List SortTerm) :
    List Sorting :=
  order.map fun
    | .mk (.place n _) descending greatNull =>
      let collations := projectedCollations own shapes columns
      { collation := collations[(n - 1).toNatClampNeg]?.getD .binary, descending, greatNull }
    | .mk e descending greatNull =>
      { collation := exprCollation (own ++ shapes) e, descending, greatNull }

/-- The cell at a place of a row, counted from one. -/
def atPlace (row : List Cell) (n : Int64) : Cell := row.getD (n - 1).toNatClampNeg .null

/-- Whether an expression is a place. -/
def isPlace : Expr → Bool
  | .place .. => true
  | _ => false

mutual

/-- The value of an expression, as far as it is wanted. -/
def eval (w : World) (d : Demand) (frames : List Frame) (group : List (List Frame)) (e : Expr) :
    Except Fault Cell :=
  if d.passes e then .ok (.integer 1)
  else
    match e with
    | .literal c => .ok c
    | .parameter n _ => .ok (w.parameters.getD (n - 1) .null)
    | .column name => columnValue frames name
    | .named name e =>
      match cell? frames name with
      | some c => .ok c
      | none => eval w .value frames group e
    | .place .. => .ok .null
    | .negate e => do
      let a ← eval w .value frames group e
      .ok (negative a)
    | .complement e => do
      let a ← eval w .value frames group e
      .ok (complement a)
    | .plus e => eval w .value frames group e
    | .not e =>
      match d with
      | .value => do
        let a ← eval w .value frames group e
        .ok (ofTruth ((truth a).map Bool.not))
      | .holds _ => do
        let a ← eval w .fails frames group e
        .ok (Value.flag (truth a = some false))
      | .fails => do
        let a ← eval w .whole frames group e
        .ok (Value.flag (truth a ≠ some true))
    | .binary op left right =>
      match d, op with
      | .holds _, .and => do
        let a ← eval w d frames group left
        if truth a = some true then eval w d frames group right else .ok (.integer 0)
      | .holds _, .or => do
        let a ← eval w .whole frames group left
        if truth a = some true then .ok (.integer 1) else eval w .whole frames group right
      | .fails, .and => do
        let a ← eval w .fails frames group left
        if truth a = some false then .ok (.integer 0) else eval w .fails frames group right
      | .fails, .or => do
        let a ← eval w .fails frames group left
        if truth a = some false then eval w .fails frames group right else .ok (.integer 1)
      | _, _ => do
        let a ← eval w .value frames group left
        let b ← eval w .value frames group right
        .ok (applyTo frames w op left right a b)
    | .isNull e => do
      let a ← eval w .value frames group e
      .ok (Value.flag (same a .null))
    | .notNull e => do
      let a ← eval w .value frames group e
      .ok (Value.flag !(same a .null))
    | .like e pattern => do
      let p ← eval w .value frames group pattern
      let a ← eval w .value frames group e
      .ok (matchesWildcard none a p)
    | .likeEscape e pattern escape => do
      let p ← eval w .value frames group pattern
      let a ← eval w .value frames group e
      let c ← eval w .value frames group escape
      matchesEscaped a p c
    | .glob e pattern => do
      let p ← eval w .value frames group pattern
      let a ← eval w .value frames group e
      .ok (matchesGlob a p)
    | .regexp e pattern => do
      let p ← eval w .value frames group pattern
      let a ← eval w .value frames group e
      matchesPattern a p
    | .between e low high => do
      let a ← eval w .value frames group e
      let l ← eval w .value frames group low
      let h ← eval w .value frames group high
      let above := (compareTo frames w e low a l).map (· != .lt)
      let below := (compareTo frames w e high a h).map (· != .gt)
      .ok (ofTruth (conjunction above below))
    | .isIn e items => do
      let a ← eval w .value frames group e
      let cells ← evalAll w frames group items
      .ok (ofTruth (amongItems frames w e items a cells))
    | .inRows e s => do
      let a ← eval w .value frames group e
      let rows ← queryRows w frames false s
      let shapes := shapesOf frames
      let l := leaning (exprAffinity w shapes e) (queryAffinity w shapes s)
      .ok (ofTruth (isAmong (comparingRows w shapes e s) l a (rows.map fun r => r.headD .null)))
    | .hasRows s => do
      let rows ← queryRows w frames true s
      .ok (Value.flag !rows.isEmpty)
    | .first s => do
      let rows ← queryRows w frames true s
      .ok ((rows.headD []).headD .null)
    | .cast e a => do
      let c ← eval w .value frames group e
      .ok (cast a c)
    | .collate e _ => eval w .value frames group e
    | .choice branches otherwise => do
      match ← chosen w frames group branches with
      | some c => .ok c
      | none => eval w .value frames group otherwise
    | .choiceOf e branches otherwise => do
      let a ← eval w .value frames group e
      match ← chosenBy w frames group e a branches with
      | some c => .ok c
      | none => eval w .value frames group otherwise
    | .call function arguments =>
      if isFallback function then firstPresent w frames group arguments
      else if isChoice function then firstHolding w frames group arguments
      else do
        let cells ← evalAll w frames group arguments
        applyFunction w.now (comparingAll (shapesOf frames) arguments)
          (Text.upper function.name) cells
    | .countRows _ => .ok (.integer (Int64.ofNat group.length))
    | .aggregate function _ distinct e => do
      let cells ← group.mapM fun fs => eval w .value fs [] e
      applyToGroup frames function distinct e cells
    | .raise undo message => do
      let c ← eval w .value frames group message
      .error (.raised undo ((textOf? c).getD ""))
    | .leaveOut => .error .rowIgnored

/-- The values of expressions. -/
def evalAll (w : World) (frames : List Frame) (group : List (List Frame)) :
    List Expr → Except Fault (List Cell)
  | [] => .ok []
  | e :: rest => do
    let c ← eval w .value frames group e
    let cs ← evalAll w frames group rest
    .ok (c :: cs)

/-- The first value that is not null. -/
def firstPresent (w : World) (frames : List Frame) (group : List (List Frame)) :
    List Expr → Except Fault Cell
  | [] => .ok .null
  | e :: rest => do
    let c ← eval w .value frames group e
    if same c .null then firstPresent w frames group rest else .ok c

/-- The value behind the first condition that holds.  A value without a condition is the last
resort. -/
def firstHolding (w : World) (frames : List Frame) (group : List (List Frame)) :
    List Expr → Except Fault Cell
  | [] => .ok .null
  | [e] => eval w .value frames group e
  | test :: value :: rest => do
    let c ← eval w .whole frames group test
    if truth c = some true then eval w .value frames group value
    else firstHolding w frames group rest

/-- The value that goes with the first condition that holds. -/
def chosen (w : World) (frames : List Frame) (group : List (List Frame)) :
    List Branch → Except Fault (Option Cell)
  | [] => .ok none
  | .mk test value :: rest => do
    let c ← eval w .whole frames group test
    if truth c = some true then (eval w .value frames group value).map some
    else chosen w frames group rest

/-- The value that goes with the first value that an expression is equal to. -/
def chosenBy (w : World) (frames : List Frame) (group : List (List Frame)) (e : Expr) (a : Cell) :
    List Branch → Except Fault (Option Cell)
  | [] => .ok none
  | .mk test value :: rest => do
    let b ← eval w .value frames group test
    if compareTo frames w e test a b = some .eq then (eval w .value frames group value).map some
    else chosenBy w frames group e a rest

/-- The values of selected columns. -/
def project (w : World) (frames : List Frame) (group : List (List Frame)) :
    List Projection → Except Fault (List Cell)
  | [] => .ok []
  | .all _ :: rest => do
    let cs ← project w frames group rest
    .ok ((frames.head?.map fun f => f.row.cells).getD [] ++ cs)
  | .value e .. :: rest => do
    let c ← eval w .value frames group e
    let cs ← project w frames group rest
    .ok (c :: cs)

/-- The sort keys of a row with the values of its selected columns. -/
def sortKeys (w : World) (frames : List Frame) (group : List (List Frame)) (row : List Cell) :
    List SortTerm → Except Fault (List Cell)
  | [] => .ok []
  | .mk e .. :: rest => do
    let c ←
      match e with
      | .place n _ | .collate (.place n _) _ => .ok (atPlace row n)
      | e => eval w .value frames group e
    let cs ← sortKeys w frames group row rest
    .ok (c :: cs)

/-- The values by which rows are grouped, given those of the selected columns. -/
def groupKeys (w : World) (frames : List Frame) (row : List Cell) :
    List Expr → Except Fault (List Cell)
  | [] => .ok []
  | e :: rest => do
    let c ←
      match e with
      | .place n _ => .ok (atPlace row n)
      | e => eval w .value frames [] e
    let cs ← groupKeys w frames row rest
    .ok (c :: cs)

/-- The row of a group that its columns are taken from. -/
def guidedBy (w : World) (group : List (List Frame)) : Expr → Except Fault (Option (List Frame))
  | .aggregate function _ _ e => do
    let cells ← group.mapM fun fs => eval w .value fs [] e
    let collation := exprCollation (shapesOf (group.headD [])) e
    .ok group[guideIndex collation function cells]?
  | _ => .ok group.head?

/-- The rows of a query, possibly only the first. -/
def queryRows (w : World) (frames : List Frame) (once : Bool) :
    Select → Except Fault (List (List Cell))
  | .mk distinct columns source condition groups having order guide limit offset => do
    let count ← eval w .value frames [] limit
    let count ← limitOf count
    if count = 0 then .ok []
    else
      let count := if once then 1 else count
      let skip ← eval w .value frames [] offset
      let skip ← limitOf skip
      let own := sourceShapes w source
      let shapes := shapesOf frames
      let sought := soughtIn w source
      let all ← candidates w frames source
      let ahead ← eval w (.ofTurn sought own .ahead) frames [] condition
      let all := if truth ahead = some true then all else []
      let test := fun fs => do
        let a ← eval w (.ofTurn sought own .lookUp) fs [] condition
        if truth a = some true then
          let b ← eval w (.ofTurn sought own .plain) fs [] condition
          if truth b = some true then
            let c ← eval w (.ofTurn sought own .last) fs [] condition
            .ok (truth c = some true : Bool)
          else .ok false
        else .ok false
      let sortings := sortings own shapes columns order
      let collations := projectedCollations own shapes columns
      if makesGroups columns groups then
        let rows ← gather test .ok none 0 all
        let members ←
          if groups.isEmpty then .ok [rows]
          else do
            let keyed ← rows.mapM fun fs => do
              let row ← if groups.any isPlace then project w fs [] columns else .ok []
              let keys ← groupKeys w fs row groups
              .ok (keys, fs)
            .ok (groupsOf (groups.map (exprCollation (own ++ shapes))) keyed)
        let found ← members.mapM fun group => do
          let guided ← guidedBy w group guide
          let fs := guided.getD (nullFrames w frames source)
          let kept ← eval w .whole fs group having
          if truth kept = some true then
            let row ← project w fs group columns
            let keys ← sortKeys w fs group row order
            .ok [(keys, row)]
          else .ok []
        let rows := found.flatten
        let rows := if distinct then distinctRows collations rows else rows
        .ok (cut count skip ((sorted sortings rows).map (·.2)))
      else if order.isEmpty && !distinct then
        gather test (fun fs => project w fs [] columns) (wantedOf count) skip.toNat all
      else
        let rows ← gather test
          (fun fs => do
            let row ← project w fs [] columns
            let keys ← sortKeys w fs [] row order
            .ok (keys, row))
          none 0 all
        let rows := if distinct then distinctRows collations rows else rows
        .ok (cut count skip ((sorted sortings rows).map (·.2)))

end

/-- Whether a condition holds. -/
def holds (w : World) (frames : List Frame) (condition : Expr) : Except Fault Bool := do
  let c ← eval w .whole frames [] condition
  .ok (truth c = some true)

/-- Whether a condition fails; it does not if it is unknown. -/
def isBroken (w : World) (frames : List Frame) (condition : Expr) : Except Fault Bool := do
  let c ← eval w .fails frames [] condition
  .ok (truth c = some false)

end FilterStore.Engine
