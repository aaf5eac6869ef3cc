import FilterStore.Engine.Comparison
import FilterStore.Engine.Relation
import FilterStore.Sql.Parts

/-!
# Operands, order and groups

An operand of a comparison may have an *affinity*, which can convert the other operand, and a
*collation*, by which texts are compared.  A column has both, and an expression can be given a
collation anywhere in it.  A collation that is given goes before that of a column, and the left
operand before the right one.

Rows are sorted by keys, and rows with equal keys stay in the order they come in.  Rows with equal
keys can also be made into groups.  A query is one of groups if it asks for them, or if one of its
columns is a function of a group; then all its rows form one.
-/

namespace FilterStore.Engine

/-! ## Operands -/

open Sql (Branch Collation Expr Projection Select Source)

/-- The shapes a query adds to those around it. -/
def sourceShapes (w : World) (source : Option Source) : List Shape :=
  match source with
  | none => []
  | some s =>
    match w.relation? s.table with
    | some r => [r.shape s.name]
    | none => []

/-! ## Affinities -/

mutual

/-- The affinity of an expression; most have none. -/
def exprAffinity (w : World) (shapes : List Shape) : Expr → Option Affinity
  | .column name => (target? shapes name).map Target.affinity
  | .named name e =>
    match target? shapes name with
    | some t => some t.affinity
    | none => exprAffinity w shapes e
  | .cast _ a => some a
  | .collate e _ => exprAffinity w shapes e
  | .first s => queryAffinity w shapes s
  | _ => none

/-- The affinity of the first column of a query. -/
def queryAffinity (w : World) (shapes : List Shape) : Select → Option Affinity
  | .mk _ columns source .. => columnsAffinity w (sourceShapes w source) shapes columns

/-- The affinity of the first of the selected columns; `own` are the shapes of the query itself. -/
def columnsAffinity (w : World) (own shapes : List Shape) : List Projection → Option Affinity
  | [] => none
  | .all _ :: _ => own.head?.bind fun s => s.columns.head?.map ColumnShape.affinity
  | .value e .. :: _ => exprAffinity w (own ++ shapes) e

end

/-! ## Collations -/

mutual

/-- The collation that an expression is given, anywhere in it. -/
def givenCollation? : Expr → Option Collation
  | .collate _ name => some ((Collation.ofName? name).getD .binary)
  | .negate e | .complement e | .plus e | .not e | .isNull e | .notNull e | .cast e _
  | .inRows e _ | .named _ e | .aggregate _ _ _ e => givenCollation? e
  | .binary _ a b => givenCollation? a <|> givenCollation? b
  | .like a b | .glob a b | .regexp a b => givenCollation? b <|> givenCollation? a
  | .likeEscape a b c => givenCollation? b <|> givenCollation? a <|> givenCollation? c
  | .between a b c => givenCollation? a <|> givenCollation? b <|> givenCollation? c
  | .isIn e items => givenCollation? e <|> collationAmong? items
  | .choice branches e => collationInBranches? branches <|> givenCollation? e
  | .choiceOf a branches e =>
    givenCollation? a <|> collationInBranches? branches <|> givenCollation? e
  | .call _ arguments => collationAmong? arguments
  | .literal _ | .parameter .. | .column _ | .place .. | .hasRows _ | .first _ | .countRows _
  | .raise .. | .leaveOut => none

/-- The first collation that one of several expressions is given. -/
def collationAmong? : List Expr → Option Collation
  | [] => none
  | e :: rest => givenCollation? e <|> collationAmong? rest

/-- The first collation that is given in branches. -/
def collationInBranches? : List Branch → Option Collation
  | [] => none
  | .mk test value :: rest =>
    givenCollation? test <|> givenCollation? value <|> collationInBranches? rest

end

/-- The collation of an expression, if it has one. -/
def exprCollation? (shapes : List Shape) : Expr → Option Collation
  | .column name => (target? shapes name).bind Target.collation?
  | .named name e =>
    match target? shapes name with
    | some t => t.collation?
    | none => exprCollation? shapes e
  | .cast e _ | .plus e => exprCollation? shapes e
  | e => givenCollation? e

/-- The collation by which the values of an expression are compared with one another. -/
def exprCollation (shapes : List Shape) (e : Expr) : Collation :=
  (exprCollation? shapes e).getD .binary

/-- The collation of the first column of a query. -/
def queryCollation? (w : World) (shapes : List Shape) : Select → Option Collation
  | .mk _ columns source .. =>
    let own := sourceShapes w source
    match columns with
    | .all _ :: _ => own.head?.bind fun s => s.columns.head?.map ColumnShape.collation
    | .value e .. :: _ => exprCollation? (own ++ shapes) e
    | [] => none

/-- The collation by which two operands are compared. -/
def comparing (shapes : List Shape) (a b : Expr) : Collation :=
  (givenCollation? a <|> givenCollation? b <|> exprCollation? shapes a <|>
    exprCollation? shapes b).getD .binary

/-- The collation by which an operand is compared with the rows of a query. -/
def comparingRows (w : World) (shapes : List Shape) (e : Expr) (s : Select) : Collation :=
  (givenCollation? e <|> exprCollation? shapes e <|> queryCollation? w shapes s).getD .binary

/-- The collation by which a function compares its arguments. -/
def comparingAll (shapes : List Shape) (es : List Expr) : Collation :=
  (es.findSome? (exprCollation? shapes)).getD .binary

/-! ## Groups -/

open Sql (Aggregate Collation Expr Projection hasGroup)

/-- Whether a query with columns and groups is one of groups. -/
def makesGroups (columns : List Projection) (groups : List Expr) : Bool :=
  !groups.isEmpty || hasGroup columns

/-! ## Sorting -/

/-- How cells are sorted. -/
structure Sorting where
  collation : Collation
  descending : Bool
  greatNull : Bool

/-- Compares two cells in their places. -/
def Sorting.order (s : Sorting) (a b : Cell) : Ordering :=
  match same a .null, same b .null with
  | true, true => .eq
  | true, false => if s.greatNull then .gt else .lt
  | false, true => if s.greatNull then .lt else .gt
  | false, false => orderBy s.collation a b

/-- Whether one list of sort keys may stand before another. -/
def keysInOrder : List Sorting → List Cell → List Cell → Bool
  | s :: more, a :: as, b :: bs =>
    match s.order a b with
    | .eq => keysInOrder more as bs
    | .lt => !s.descending
    | .gt => s.descending
  | _, _, _ => true

/-- Sorts what has keys. -/
def sorted {α : Type} (sortings : List Sorting) (xs : List (List Cell × α)) :
    List (List Cell × α) :=
  xs.mergeSort fun a b => keysInOrder sortings a.1 b.1

/-- Whether two rows are equal, cell by cell. -/
def sameRow : List Collation → List Cell → List Cell → Bool
  | c :: cs, a :: as, b :: bs => sameBy c a b && sameRow cs as bs
  | _, _, _ => true

/-- Puts what comes next into the group that it belongs to, the last one or a new one. -/
def intoGroup {α : Type} (collations : List Collation) (groups : List (List Cell × List α))
    (x : List Cell × α) : List (List Cell × List α) :=
  match groups with
  | (key, members) :: others =>
    if sameRow collations key x.1 then (key, members ++ [x.2]) :: others
    else (x.1, [x.2]) :: groups
  | [] => [(x.1, [x.2])]

/-- The groups of equal keys, in the order of their keys. -/
def groupsOf {α : Type} (collations : List Collation) (xs : List (List Cell × α)) :
    List (List α) :=
  let sortings := collations.map fun collation => ⟨collation, false, false⟩
  ((sorted sortings xs).foldl (intoGroup collations) []).reverse.map (·.2)

/-- Of equal rows the first ones, with their keys. -/
def distinctRows (collations : List Collation) (rows : List (List Cell × List Cell)) :
    List (List Cell × List Cell) :=
  (rows.foldl (fun seen r =>
    if seen.any fun s => sameRow collations s.2 r.2 then seen else r :: seen) []).reverse

/-- Takes note of one more value of a group and its index: the least or greatest value so far, if
there is one, with the index it was found at. -/
def guideStep (collation : Collation) (function : Aggregate) (found : Option Cell × Nat)
    (next : Cell × Nat) : Option Cell × Nat :=
  match found.1 with
  | none => (if same next.1 .null then none else some next.1, next.2)
  | some best =>
    if same next.1 .null then found
    else
      match function, orderBy collation best next.1 with
      | .max, .lt | .min, .gt => (some next.1, next.2)
      | _, _ => found

/-- Where the least or greatest value of a group was found.  Nulls count until there is a value. -/
def guideIndex (collation : Collation) (function : Aggregate) (cells : List Cell) : Nat :=
  (cells.zipIdx.foldl (guideStep collation function) (none, 0)).2

/-! ## Limits -/

/-- Cuts rows to those behind an offset, and to a count unless it is negative. -/
def cut {α : Type} (limit offset : Int) (rows : List α) : List α :=
  let rows := rows.drop offset.toNat
  if limit < 0 then rows else rows.take limit.toNat

/-- Makes results of the items that pass a test, but for the first few, and stops when there are as
many as are wanted. -/
def gather {ε α β : Type} (test : α → Except ε Bool) (result : α → Except ε β) :
    Option Nat → Nat → List α → Except ε (List β)
  | _, _, [] => .ok []
  | some 0, _, _ => .ok []
  | wanted, skipped, x :: xs => do
    if ← test x then
      match skipped with
      | n + 1 => gather test result wanted n xs
      | 0 =>
        let y ← result x
        let ys ← gather test result (wanted.map (· - 1)) 0 xs
        .ok (y :: ys)
    else gather test result wanted skipped xs

end FilterStore.Engine
