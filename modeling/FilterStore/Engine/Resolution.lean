import FilterStore.Engine.Evaluation
import FilterStore.Number.Total

/-!
# Resolving names

Before a statement runs, every name in it is looked up, so a statement with a name that leads
nowhere fails even where it would have met no row.  Tables are looked up first, also those of the
queries inside of a query, then the parts of a statement in a fixed order, and the first name that
leads nowhere is reported.  A pattern comes before the text it is held against.

In an expression the first fault need not be the one that is reported.  Where something is wrong
with the arguments of a function, or with the function itself, the parts behind it are still looked
at, and what is wrong with them is reported instead.  But then only names and functions are looked
at, one after the other, until something else comes.

A condition on the rows of a table and what an index is made of see nothing but a row: there is no
query in them and no parameter, and in an index nothing that depends on the time.

Functions of a group may stand among the selected columns.  In the order of a query, and in the
condition on its groups, they may stand if the query is one of groups.  In its condition the group
is not there yet, which is found out last, as is a collation of a name that there is not.
-/

namespace FilterStore.Engine

open Number (total)
open Sql (Branch Collation ColumnName Expr Fault FunctionName Projection Select SortTerm Source
  isAlways)
open Text (sameName)

/-- How looking through part of an expression ends. -/
structure Search where
  /-- What is wrong so far. -/
  fault : Option Fault
  /-- Whether the parts behind are looked at. -/
  goesOn : Bool

/-- Looks at one part behind another. -/
def Search.andThen (s : Search) (next : Option Fault → Search) : Search :=
  if s.goesOn then next s.fault else s

/-- Ends a search within a part of its own. -/
def Search.within (s : Search) : Search := ⟨s.fault, true⟩

/-- What a search has found. -/
def Search.result (s : Search) : Except Fault Unit :=
  match s.fault with
  | some f => .error f
  | none => .ok ()

/-- Looks at the parts of something that is only looked at if nothing is wrong yet. -/
def searchUnless (before : Option Fault) (parts : Search) : Search :=
  if before.isSome then ⟨before, false⟩ else parts

/-- A check, if nothing is wrong yet, behind which a search does not go on if it fails. -/
def searchOnce (check : Except Fault Unit) : Search :=
  match check with
  | .ok () => ⟨none, true⟩
  | .error f => ⟨some f, false⟩

/-- What is wrong with a check, or else what was wrong before. -/
def faultOr (before : Option Fault) (check : Except Fault Unit) : Option Fault :=
  match check with
  | .ok () => before
  | .error f => some f

/-- Goes on behind a check, or ends with what is wrong with it. -/
def Search.provided (check : Except Fault Unit) (s : Search) : Search :=
  match check with
  | .ok () => s
  | .error f => ⟨some f, false⟩

/-- The settings of expressions that see nothing but a row. -/
def closedSettings : List Setting := [.check, .indexTerm, .indexCondition]

/-- Refuses something in some settings. -/
def checkAllowed (w : World) (settings : List Setting) (what : String) (offset : Option Nat) :
    Except Fault Unit :=
  if settings.contains w.setting then .error (.prohibited what w.setting.label offset) else .ok ()

/-- Whether a query may stand behind an expression. -/
def checkQuery (w : World) (before : Option Expr) : Except Fault Unit :=
  checkAllowed w closedSettings "subqueries" (before.bind Expr.offset?)

/-- Whether a name may stand behind that of a table. -/
def checkTableName (w : World) (name : ColumnName) : Except Fault Unit :=
  if name.table.isSome then
    checkAllowed w [.indexTerm] "the \".\" operator" (some name.offset)
  else .ok ()

/-- Whether a function of a group may stand somewhere. -/
def checkGrouping (allowed : Bool) (name : FunctionName) : Except Fault Unit :=
  if allowed then .ok () else .error (.misusedAggregate false name.name (some name.offset))

/-- Whether there is a function of a name and takes that many arguments.  What an index holds must
not depend on when it is looked at. -/
def checkFunction (w : World) (name : FunctionName) (arguments : Nat) : Except Fault Unit :=
  match arity? (Text.upper name.name) with
  | none => .error (.noSuchFunction name.name (some name.offset))
  | some (least, most) =>
    if !(least ≤ arguments ∧ arguments ≤ most) then
      .error (.wrongArguments name.name (some name.offset))
    else if isChangeable (Text.upper name.name) then
      checkAllowed w [.indexTerm, .indexCondition] "non-deterministic functions" (some name.offset)
    else .ok ()

/-- Whether a trigger's error stands where there is a trigger. -/
def checkTriggered (w : World) : Except Fault Unit :=
  if w.setting = .trigger then .ok () else .error .raisedOutside

/-! ## Tables -/

/-- How many columns the selected columns are. -/
def widthOf (own : List Shape) (columns : List Projection) : Nat :=
  total (columns.map fun
    | .all _ => total (own.map fun s => s.columns.length)
    | .value .. => 1)

/-- The shapes of the table of a query. -/
def checkSource (w : World) (source : Option Source) : Except Fault (List Shape) :=
  match source with
  | none => .ok []
  | some s => (w.relation s.table).map fun r => [r.shape s.name]

/-- Whether there are columns where all columns are selected. -/
def checkAll (own : List Shape) : Projection → Except Fault Unit
  | .all none => if own.isEmpty then .error .noTables else .ok ()
  | .all (some table) =>
    if own.any fun s => sameName s.name table then .ok ()
    else .error (.noSuchTable table false)
  | .value .. => .ok ()

/-- Looks up the tables of a query. -/
def checkTable (w : World) : Select → Except Fault Unit
  | .mk _ columns source .. => do
    let own ← checkSource w source
    columns.forM (checkAll own)

/-- Whether a query has one column. -/
def checkWidth (w : World) : Select → Except Fault Unit
  | .mk _ columns source .. =>
    let width := widthOf (sourceShapes w source) columns
    if width = 1 then .ok () else .error (.selectWidth width)

/-! ## Places -/

/-- A term that names a place, its collation aside. -/
def placeOf? : Expr → Option (Int64 × Nat)
  | .place n offset | .collate (.place n offset) _ => some (n, offset)
  | _ => none

/-- Whether a term names no place in front of the first. -/
def checkLow (word : String) (width : Nat) (e : Expr × Nat) : Except Fault Unit :=
  match placeOf? e.1 with
  | some (n, offset) =>
    if n < 1 then .error (.placeOutside (e.2 + 1) word width (some offset)) else .ok ()
  | none => .ok ()

/-- Whether a term names no place behind the last. -/
def checkHigh (word : String) (width : Nat) (e : Expr × Nat) : Except Fault Unit :=
  match placeOf? e.1 with
  | some (n, _) =>
    if width < n.toNatClampNeg then .error (.placeOutside (e.2 + 1) word width none) else .ok ()
  | none => .ok ()

/-- The keys of an order. -/
def orderKeys (order : List SortTerm) : List Expr := order.map fun | .mk e .. => e

/-- Fails at a function of a group in expressions; the group is not there yet. -/
def requireNoGroup (es : List Expr) : Except Fault Unit :=
  (es.flatMap (Expr.parts false)).forM fun
    | .countRows name | .aggregate _ name .. =>
      .error (.misusedAggregate true name.name (some name.offset))
    | _ => .ok ()

/-! ## Expressions and queries -/

mutual

/-- Looks up the names of an expression, after something may have been found wrong.  `g` says
whether functions of a group may stand in it. -/
def searchExpr (w : World) (shapes : List Shape) (g : Bool) (before : Option Fault) :
    Expr → Search
  | .literal _ | .place .. => ⟨before, before.isNone⟩
  | .parameter _ offset =>
    .provided (checkAllowed w closedSettings "parameters" (some offset)) ⟨before, before.isNone⟩
  | .column name =>
    if (target? shapes name).isSome || (constant? name).isSome then
      ⟨faultOr before (checkTableName w name), true⟩
    else ⟨some (.noSuchColumn (writtenName name) (some name.offset)), false⟩
  | .named name e =>
    if before.isSome || (target? shapes name).isSome then ⟨before, true⟩
    else searchExpr w shapes g none e
  | .negate e | .complement e | .plus e | .not e | .cast e _ | .collate e _ =>
    searchUnless before (searchExpr w shapes g none e)
  | .isNull e | .notNull e => (searchExpr w shapes g before e).within
  | .binary op a b =>
    if (op == .is || op == .isNot) && b.isName then
      (searchExpr w shapes g before b).andThen fun f =>
        if b.isTruth then searchExpr w shapes g f a
        else searchUnless f (searchExpr w shapes g none a)
    else
      searchUnless before
        ((searchExpr w shapes g none a).andThen fun f => searchExpr w shapes g f b)
  | .like a b | .glob a b | .regexp a b =>
    ((searchExpr w shapes g before b).andThen fun f => searchExpr w shapes g f a).within
  | .likeEscape a b c =>
    (((searchExpr w shapes g before b).andThen fun f => searchExpr w shapes g f a).andThen
      fun f => searchExpr w shapes g f c).within
  | .between a b c =>
    searchUnless before
      (((searchExpr w shapes g none a).andThen fun f => searchExpr w shapes g f b).andThen
        fun f => searchExpr w shapes g f c)
  | .isIn e items =>
    searchUnless before
      ((searchExpr w shapes g none e).andThen fun f => searchParts w shapes g f items)
  | .inRows e s =>
    .provided (checkQuery w (some e))
      (match before with
      | some f => ⟨searchBehind w shapes f s, false⟩
      | none =>
        ((searchOnce (checkSelect w shapes s)).andThen fun f => searchExpr w shapes g f e).andThen
          fun f => searchUnless f (searchOnce (checkWidth w s)))
  | .hasRows s =>
    .provided (checkQuery w none)
      (match before with
      | some f => ⟨searchBehind w shapes f s, false⟩
      | none => searchOnce (checkSelect w shapes s))
  | .first s =>
    .provided (checkQuery w none)
      (match before with
      | some f => ⟨searchBehind w shapes f s, false⟩
      | none =>
        (searchOnce (checkSelect w shapes s)).andThen fun _ => searchOnce (checkWidth w s))
  | .choice branches otherwise =>
    searchUnless before
      ((searchBranches w shapes g none branches).andThen fun f => searchExpr w shapes g f otherwise)
  | .choiceOf e branches otherwise =>
    searchUnless before
      (((searchExpr w shapes g none e).andThen fun f => searchBranches w shapes g f branches).andThen
        fun f => searchExpr w shapes g f otherwise)
  | .call name arguments =>
    let found := faultOr before (checkFunction w name arguments.length)
    (searchParts w shapes g found arguments).within
  | .countRows name => ⟨faultOr before (checkGrouping g name), true⟩
  | .aggregate _ name _ e =>
    (searchExpr w shapes false (faultOr before (checkGrouping g name)) e).within
  | .raise _ message =>
    searchUnless before
      ((searchExpr w shapes g none message).andThen fun f =>
        searchUnless f (searchOnce (checkTriggered w)))
  | .leaveOut => searchUnless before (searchOnce (checkTriggered w))

/-- Looks up the names of parts of an expression. -/
def searchParts (w : World) (shapes : List Shape) (g : Bool) (before : Option Fault) :
    List Expr → Search
  | [] => ⟨before, true⟩
  | e :: rest =>
    (searchExpr w shapes g before e).andThen fun f => searchParts w shapes g f rest

/-- Looks up the names in branches. -/
def searchBranches (w : World) (shapes : List Shape) (g : Bool) (before : Option Fault) :
    List Branch → Search
  | [] => ⟨before, true⟩
  | .mk test value :: rest =>
    ((searchExpr w shapes g before test).andThen fun f => searchExpr w shapes g f value).andThen
      fun f => searchBranches w shapes g f rest

/-- What is wrong when a query stands behind something that is wrong: only the first of its columns
is looked at. -/
def searchBehind (w : World) (shapes : List Shape) (before : Fault) : Select → Option Fault
  | .mk _ columns source .. => searchFirst w (sourceShapes w source ++ shapes) before columns

/-- Looks up the names of the first of some columns. -/
def searchFirst (w : World) (shapes : List Shape) (before : Fault) :
    List Projection → Option Fault
  | .value e .. :: _ => (searchExpr w shapes true (some before) e).fault
  | _ => some before

/-- Looks up the names of expressions. -/
def checkExprs (w : World) (shapes : List Shape) (g : Bool) : List Expr → Except Fault Unit
  | [] => .ok ()
  | e :: rest => do
    (searchExpr w shapes g none e).result
    checkExprs w shapes g rest

/-- Looks up the names of selected columns. -/
def checkColumns (w : World) (shapes : List Shape) : List Projection → Except Fault Unit
  | [] => .ok ()
  | .all _ :: rest => checkColumns w shapes rest
  | .value e .. :: rest => do
    (searchExpr w shapes true none e).result
    checkColumns w shapes rest

/-- Looks up the names of an order. -/
def checkOrder (w : World) (shapes : List Shape) : List SortTerm → Except Fault Unit
  | [] => .ok ()
  | .mk e .. :: rest => do
    (searchExpr w shapes true none e).result
    checkOrder w shapes rest

/-- Looks up the names of a query; `shapes` are those around it. -/
def checkSelect (w : World) (shapes : List Shape) : Select → Except Fault Unit
  | .mk distinct columns source condition groups having order guide limit offset => do
    (Select.mk distinct columns source condition groups having order guide limit
      offset).queries.forM (checkTable w)
    let own := sourceShapes w source
    let all := own ++ shapes
    let width := widthOf own columns
    (searchExpr w [] false none limit).result
    (searchExpr w [] false none offset).result
    checkColumns w all columns
    let grouped := makesGroups columns groups
    if !grouped && !isAlways having then .error .havingMisplaced
    (searchExpr w all grouped none having).result
    (searchExpr w all grouped none condition).result
    (orderKeys order).zipIdx.forM (checkLow "ORDER" width)
    checkOrder w all order
    (orderKeys order).zipIdx.forM (checkHigh "ORDER" width)
    groups.zipIdx.forM (checkLow "GROUP" width)
    checkExprs w all true groups
    groups.zipIdx.forM (checkHigh "GROUP" width)
    if groups.any Expr.isGrouped then .error .groupedTerm
    requireNoGroup (if grouped then [condition] else orderKeys order)

end

/-- Looks up the names of an expression. -/
def checkExpr (w : World) (shapes : List Shape) (g : Bool) (e : Expr) : Except Fault Unit :=
  (searchExpr w shapes g none e).result

/-! ## Collations -/

/-- Fails at a collation in an expression if there is none of its name. -/
def checkCollations (e : Expr) : Except Fault Unit :=
  (e.parts false).forM fun
    | .collate _ name =>
      if (Collation.ofName? name).isSome then .ok () else .error (.noSuchCollation name)
    | _ => .ok ()

/-- Whether an expression compares values. -/
def compares : Expr → Bool
  | .binary op .. => BinaryOp.looksUp op || op == .notEqual || op == .isNot
  | .between .. | .isIn .. | .inRows .. | .choiceOf .. => true
  | e => e.isExtreme

/-- Checks the collations by which values are compared in expressions. -/
def checkComparisons (es : List Expr) : Except Fault Unit :=
  ((es.flatMap (Expr.parts true)).filter compares).forM checkCollations

/-- Checks the collations by which the rows of a query are sorted and grouped. -/
def checkSorting : Select → Except Fault Unit
  | .mk _ _ _ _ groups _ order .. => (groups ++ orderKeys order).forM checkCollations

/-- Checks the collations of a query. -/
def checkQueryCollations (s : Select) : Except Fault Unit := do
  s.queries.forM checkSorting
  checkComparisons [.hasRows s]

/-! ## Headings -/

/-- The heading of a selected expression that is given no name: a column's own name, else the text
of the expression. -/
def headingOf (relation : Option Relation) (shapes : List Shape) (e : Expr) (text : String) :
    String :=
  match e with
  | .column name =>
    match target? shapes name, relation with
    | some (.cell _ shape), some _ => shape.name
    | some .rowId, some r => r.rowIdColumn.getD "rowid"
    | _, _ => text
  | _ => text

/-- The headings of a query's columns. -/
def headings (w : World) : Select → List String
  | .mk _ columns source .. =>
    let relation := source.bind fun s => w.relation? s.table
    let own := sourceShapes w source
    columns.flatMap fun
      | .all _ => own.flatMap fun s => s.columns.map ColumnShape.name
      | .value _ heading true => [heading]
      | .value e text false => [headingOf relation own e text]

/-- What is known of a query's columns. -/
def columnShapes (w : World) (s : Select) (names : List String) : List ColumnShape :=
  match s with
  | .mk _ columns source .. =>
    let own := sourceShapes w source
    let shapes := columns.flatMap fun
      | .all _ => own.flatMap Shape.columns
      | .value e .. =>
        [{ name := "", affinity := (exprAffinity w own e).getD .blob
           collation := exprCollation own e }]
    names.zipWith (fun name (shape : ColumnShape) => { shape with name }) shapes

end FilterStore.Engine
