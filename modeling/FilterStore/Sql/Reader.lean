import FilterStore.Sql.Alias
import FilterStore.Sql.Literal

/-!
# Reading expressions and queries

A reader takes tokens from the front of what is left of a statement.  Where it cannot go on it fails
at the next token, and where there is none the statement is incomplete.

Expressions are read by *levels*: an operand, then every operator that binds at least as tightly as
the level asks for.  From loose to tight the levels are `OR`, `AND`, `NOT`, the equality operators
with `IS`, `IN`, `LIKE` and `BETWEEN`, the order comparisons, operators on bits, sums, products,
concatenation, collations, and signs.  Binary operators group to the left.  `NOT` may stand inside
a tighter level, and then still takes everything that binds more tightly than itself.

Every call that goes deeper, or on to the next operator, has consumed a token or is one of a few
steps down from one that has, so the count of the tokens bounds the depth.
-/

namespace FilterStore.Sql

/-- What is left of a statement, how many parameters it has had so far, and the numbers of those
with names. -/
structure Remainder where
  tokens : List Token
  parameters : Nat
  named : List (String × Nat)

/-- A reader of part of a statement. -/
abbrev Reader (α : Type) := StateT Remainder (Except Fault) α

namespace Reader

/-- The next token. -/
def peek : Reader Token := do
  match (← get).tokens with
  | t :: _ => pure t
  | [] => pure (Token.finishing [] 0)

/-- The token behind the next one. -/
def peekSecond : Reader Token := do
  match (← get).tokens with
  | _ :: t :: _ => pure t
  | _ => pure (Token.finishing [] 0)

/-- Leaves the next token behind. -/
def advance : Reader Unit := modify fun r => { r with tokens := r.tokens.drop 1 }

/-- What a token that cannot stand where it stands is reported as. -/
def faultAt (t : Token) : Fault :=
  match t.kind with
  | .finish => .incomplete
  | .illegal => .unrecognized t.text t.offset
  | _ => .unexpected t.text t.offset

/-- Fails at the next token. -/
def fail {α : Type} : Reader α := do
  throw (faultAt (← peek))

/-- Leaves a keyword behind, if it is next. -/
def keyword? (keyword : String) : Reader Bool := do
  if (← peek).isKeyword keyword then
    advance
    pure true
  else pure false

/-- Leaves a keyword behind. -/
def keyword (keyword : String) : Reader Unit := do
  if ← keyword? keyword then pure () else fail

/-- Leaves keywords behind. -/
def keywords (words : List String) : Reader Unit := words.forM keyword

/-- Leaves a symbol behind, if it is next. -/
def symbol? (symbol : String) : Reader Bool := do
  if (← peek).isSymbol symbol then
    advance
    pure true
  else pure false

/-- Leaves a symbol behind. -/
def symbol (symbol : String) : Reader Unit := do
  if ← symbol? symbol then pure () else fail

/-- A name. -/
def name : Reader String := do
  match (← peek).name? with
  | some n =>
    advance
    pure n
  | none => fail

/-- What is read, and the tokens it was read from. -/
def withTokens {α : Type} (r : Reader α) : Reader (α × List Token) := do
  let before := (← get).tokens
  let a ← r
  let after := (← get).tokens
  pure (a, before.take (before.length - after.length))

/-- Things with commas between them, as many as the fuel allows. -/
def separated {α : Type} (item : Reader α) : Nat → Reader (List α)
  | 0 => fail
  | fuel + 1 => do
    let first ← item
    if ← symbol? "," then
      let rest ← separated item fuel
      pure (first :: rest)
    else pure [first]

end Reader

open Reader

/-! ## Parameters and names -/

/-- How many parameters a statement may have. -/
def parameterLimit : Nat := 32766

/-- The parameter of a number, written at a place. -/
def numberedParameter (index offset : Nat) : Reader Expr := do
  modify fun r => { r with parameters := max r.parameters index }
  pure (.parameter index offset)

/-- A parameter with a number keeps it, one without takes the next, and one with a name that of the
name. -/
def parameter (t : Token) : Reader Expr := do
  let r ← get
  match t.text.toList with
  | ['?'] => numberedParameter (r.parameters + 1) t.offset
  | '?' :: digits =>
    let index := Number.ofDigitChars digits
    if index = 0 ∨ parameterLimit < index then throw (.parameterNumber t.offset)
    numberedParameter index t.offset
  | _ =>
    match r.named.lookup t.text with
    | some index => pure (.parameter index t.offset)
    | none =>
      let index := r.parameters + 1
      set { r with named := (t.text, index) :: r.named }
      numberedParameter index t.offset

/-- The schemas whose names may stand before those of tables. -/
def schemaNames : List String := ["MAIN", "TEMP"]

/-- The name of a table, possibly behind that of its schema. -/
def tableName : Reader String := do
  let first ← name
  if ← symbol? "." then
    let table ← name
    pure (if schemaNames.contains (Text.upper first) then table else first ++ "." ++ table)
  else pure first

/-- The words of a type. -/
def typeWords : Nat → Reader Unit
  | 0 => pure ()
  | fuel + 1 => do
    match (← peek).name? with
    | some _ =>
      advance
      typeWords fuel
    | none => pure ()

/-- A number with or without a sign. -/
def signedNumber : Reader Unit := do
  if ← symbol? "-" then pure ()
  else
    let _ ← symbol? "+"
  match (← peek).kind with
  | .integer | .real => advance
  | _ => fail

/-- A declared type as it is written: words, then one or two numbers in brackets.  There may be
none. -/
def writtenType : Reader String := do
  let (_, tokens) ← withTokens do
    if (← peek).name?.isSome then
      typeWords (← get).tokens.length
      if ← symbol? "(" then
        signedNumber
        if ← symbol? "," then signedNumber
        symbol ")"
  pure (Token.joined tokens)

/-- An affinity behind `CAST … AS`. -/
def castType : Reader Affinity := do
  let written ← writtenType
  pure (if written.isEmpty then .numeric else .ofType written)

/-! ## Operators -/

/-- The level of an operand of `NOT`. -/
def notLevel : Nat := 3

/-- The level of the equality operators. -/
def equalityLevel : Nat := 4

/-- The level of a collation. -/
def collationLevel : Nat := 10

/-- The level of an operand of a sign. -/
def signLevel : Nat := 11

/-- The binary operator a token stands for, with its level. -/
def binaryOp? (t : Token) : Option (BinaryOp × Nat) :=
  match t.kind with
  | .word =>
    if t.isKeyword "OR" then some (.or, 1)
    else if t.isKeyword "AND" then some (.and, 2)
    else none
  | .symbol =>
    match t.text with
    | "=" | "==" => some (.equal, equalityLevel)
    | "<>" | "!=" => some (.notEqual, equalityLevel)
    | "<" => some (.less, 5)
    | "<=" => some (.lessEqual, 5)
    | ">" => some (.greater, 5)
    | ">=" => some (.greaterEqual, 5)
    | "&" => some (.bitAnd, 6)
    | "|" => some (.bitOr, 6)
    | "<<" => some (.shiftLeft, 6)
    | ">>" => some (.shiftRight, 6)
    | "+" => some (.add, 7)
    | "-" => some (.subtract, 7)
    | "*" => some (.multiply, 8)
    | "/" => some (.divide, 8)
    | "%" => some (.remainder, 8)
    | "||" => some (.concat, 9)
    | _ => none
  | _ => none

/-- The function of a group that a name stands for. -/
def aggregate? (function : String) : Option Aggregate :=
  match Text.upper function with
  | "COUNT" => some .count
  | "MIN" => some .min
  | "MAX" => some .max
  | "SUM" => some .sum
  | "TOTAL" => some .total
  | "AVG" => some .average
  | _ => none

/-- A call of a function.  The functions of a group take one argument; with more, `MIN` and `MAX`
choose among their arguments. -/
def callOf (name : FunctionName) (distinct : Bool) (arguments : List Expr) : Expr :=
  match aggregate? name.name, arguments with
  | some .count, [] => .countRows name
  | some a, [e] => .aggregate a name distinct e
  | _, _ => .call name arguments

/-- The opposite of an operand.  That of a double that is written out is one itself. -/
def opposite : Expr → Expr
  | .literal (.real x) => .literal (.real (-x))
  | e => .negate e

/-- The words that tests start with. -/
def testWords : List String := ["LIKE", "GLOB", "REGEXP", "MATCH", "BETWEEN", "IN"]

/-- The words that stand for the current time. -/
def timeWords : List String := ["CURRENT_TIMESTAMP", "CURRENT_DATE", "CURRENT_TIME"]

/-- Negates a test, where it is written with `NOT`. -/
def negated (no : Bool) (e : Expr) : Expr := if no then .not e else e

/-! ## Expressions and queries -/

/-- The condition of a query that has none. -/
def always : Expr := .literal (.integer 1)

/-- The limit of a query that has none. -/
def unlimited : Expr := .literal (.integer (-1))

/-- The offset of a query that has none. -/
def noOffset : Expr := .literal (.integer 0)

/-- A column, or one of its table. -/
def columnName (first : Token) (name : String) : Reader Expr := do
  if ← symbol? "." then
    let column ← Reader.name
    pure (.column { table := some name, name := column, quoted := false, offset := first.offset })
  else
    let quoted := first.kind == .quotedName && first.text.toList.head? == some '"'
    pure (.column { table := none, name, quoted, offset := first.offset })

/-- The name a table goes by in a query, if it is given one. -/
def givenName? : Reader (Option String) := do
  if ← keyword? "AS" then
    let n ← name
    pure (some n)
  else
    match (← peek).name? with
    | some n =>
      advance
      pure (some n)
    | none => pure none

/-- The table of a query. -/
def source : Reader (Option Source) := do
  if ← keyword? "FROM" then
    let table ← tableName
    let given ← givenName?
    pure (some { table, name := given.getD table })
  else pure none

/-- The direction of a term of an order; `true` stands for descending. -/
def descending : Reader Bool := do
  if ← keyword? "DESC" then pure true
  else
    let _ ← keyword? "ASC"
    pure false

/-- Where null stands in an order of a direction; `true` stands for the place of the greatest
value. -/
def greatNull (descending : Bool) : Reader Bool := do
  if ← keyword? "NULLS" then
    if ← keyword? "FIRST" then pure descending
    else
      keyword "LAST"
      pure !descending
  else pure false

/-- What a trigger's error undoes. -/
def raiseUndo : Reader Undo := do
  if ← keyword? "ROLLBACK" then pure .transaction
  else if ← keyword? "FAIL" then pure .nothing
  else
    keyword "ABORT"
    pure .statement

/-- Whether a table's name stands next with all its columns behind it. -/
def allOfNext : Reader Bool := do
  match (← get).tokens with
  | table :: dot :: star :: _ => pure (table.name?.isSome && dot.isSymbol "." && star.isSymbol "*")
  | _ => pure false

/-- A query for all columns of a table. -/
def wholeTable (table : String) : Select :=
  namedSelect false [.all none] (some { table, name := table }) always [] always [] unlimited
    noOffset

/-- The integer a term is, if it is one; it names a place then. -/
def placeNamed? : Expr → Option Int64
  | .literal (.integer n) => some n
  | .plus e => placeNamed? e
  | _ => none

/-- A term of an order or of groups that is read from tokens. -/
def placed (e : Expr) (tokens : List Token) : Expr :=
  let offset := ((tokens.find? fun t => t.kind == .integer).map Token.offset).getD 0
  match e with
  | .collate (.literal (.integer n)) c => .collate (.place n offset) c
  | e => ((placeNamed? e).map fun n => Expr.place n offset).getD e

mutual

/-- An expression whose operators bind at least as tightly as a level. -/
def expr (level : Nat) : Nat → Reader Expr
  | 0 => fail
  | fuel + 1 => do
    let left ← operand fuel
    operators level left fuel

/-- The operators that follow an operand. -/
def operators (level : Nat) (left : Expr) : Nat → Reader Expr
  | 0 => fail
  | fuel + 1 => do
    let t ← peek
    match binaryOp? t with
    | some (op, its) =>
      if its < level then pure left
      else
        advance
        let right ← expr (its + 1) fuel
        operators level (.binary op left right) fuel
    | none =>
      if level ≤ collationLevel && t.isKeyword "COLLATE" then
        advance
        let collation ← name
        operators level (.collate left collation) fuel
      else if equalityLevel < level then pure left
      else if ← keyword? "ISNULL" then operators level (.isNull left) fuel
      else if ← keyword? "NOTNULL" then operators level (.notNull left) fuel
      else if ← keyword? "IS" then
        let no ← keyword? "NOT"
        let apart ← keyword? "DISTINCT"
        if apart then keyword "FROM"
        let right ← expr (equalityLevel + 1) fuel
        operators level (.binary (if no != apart then .isNot else .is) left right) fuel
      else if ← keyword? "NOT" then
        if ← keyword? "NULL" then operators level (.notNull left) fuel
        else
          let test ← test true left fuel
          operators level test fuel
      else if testWords.any t.isKeyword then
        let test ← test false left fuel
        operators level test fuel
      else pure left

/-- A test with a keyword of its own; `no` says that `NOT` stands before it. -/
def test (no : Bool) (left : Expr) : Nat → Reader Expr
  | 0 => fail
  | fuel + 1 => do
    if ← keyword? "LIKE" then
      let pattern ← expr (equalityLevel + 1) fuel
      if ← keyword? "ESCAPE" then
        let escape ← expr (equalityLevel + 1) fuel
        pure (negated no (.likeEscape left pattern escape))
      else pure (negated no (.like left pattern))
    else if ← keyword? "GLOB" then
      let pattern ← expr (equalityLevel + 1) fuel
      pure (negated no (.glob left pattern))
    else if ← keyword? "REGEXP" then
      let pattern ← expr (equalityLevel + 1) fuel
      pure (negated no (.regexp left pattern))
    else if (← peek).isKeyword "MATCH" then
      let t ← peek
      advance
      let pattern ← expr (equalityLevel + 1) fuel
      pure (negated no (.call ⟨"MATCH", t.offset⟩ [pattern, left]))
    else if ← keyword? "BETWEEN" then
      let low ← expr notLevel fuel
      keyword "AND"
      let high ← expr (equalityLevel + 1) fuel
      pure (negated no (.between left low high))
    else
      keyword "IN"
      if ← symbol? "(" then
        if (← peek).isKeyword "SELECT" then
          let rows ← query fuel
          symbol ")"
          pure (negated no (.inRows left rows))
        else if ← symbol? ")" then pure (negated no (.isIn left []))
        else
          let items ← exprs fuel
          symbol ")"
          pure (negated no (.isIn left items))
      else
        let table ← tableName
        pure (negated no (.inRows left (wholeTable table)))

/-- Expressions with commas between them. -/
def exprs : Nat → Reader (List Expr)
  | 0 => fail
  | fuel + 1 => do
    let first ← expr 0 fuel
    if ← symbol? "," then
      let rest ← exprs fuel
      pure (first :: rest)
    else pure [first]

/-- An operand, with the signs and `NOT` before it. -/
def operand : Nat → Reader Expr
  | 0 => fail
  | fuel + 1 => do
    let t ← peek
    match ← ofExcept (literal? t) with
    | some c =>
      advance
      pure (.literal c)
    | none =>
      if t.kind == .parameter then
        advance
        parameter t
      else if ← keyword? "NOT" then
        let e ← expr notLevel fuel
        pure (.not e)
      else if ← symbol? "-" then
        let next ← peek
        if next.kind == .integer then
          advance
          let c ← ofExcept (numeral true next)
          pure (.literal c)
        else
          let e ← expr signLevel fuel
          pure (opposite e)
      else if ← symbol? "~" then
        let e ← expr signLevel fuel
        pure (.complement e)
      else if ← symbol? "+" then
        let e ← expr signLevel fuel
        pure (.plus e)
      else if ← symbol? "(" then
        if (← peek).isKeyword "SELECT" then
          let rows ← query fuel
          symbol ")"
          pure (.first rows)
        else
          let e ← expr 0 fuel
          symbol ")"
          pure e
      else if ← keyword? "EXISTS" then
        symbol "("
        let rows ← query fuel
        symbol ")"
        pure (.hasRows rows)
      else if ← keyword? "CASE" then
        if ← keyword? "WHEN" then
          let (branches, otherwise) ← caseBranches fuel
          pure (.choice branches otherwise)
        else
          let e ← expr 0 fuel
          keyword "WHEN"
          let (branches, otherwise) ← caseBranches fuel
          pure (.choiceOf e branches otherwise)
      else if t.isKeyword "CAST" && (← peekSecond).isSymbol "(" then
        advance
        symbol "("
        let e ← expr 0 fuel
        keyword "AS"
        let affinity ← castType
        symbol ")"
        pure (.cast e affinity)
      else if t.isKeyword "RAISE" && (← peekSecond).isSymbol "(" then
        advance
        symbol "("
        let e ←
          if ← keyword? "IGNORE" then pure Expr.leaveOut
          else
            let undo ← raiseUndo
            symbol ","
            let message ← expr 0 fuel
            pure (.raise undo message)
        symbol ")"
        pure e
      else if timeWords.any t.isKeyword then
        advance
        pure (.call ⟨t.text, t.offset⟩ [])
      else
        let n ← name
        if ← symbol? "(" then
          if ← symbol? "*" then
            symbol ")"
            pure (callOf ⟨n, t.offset⟩ false [])
          else if ← symbol? ")" then pure (callOf ⟨n, t.offset⟩ false [])
          else
            let distinct ← keyword? "DISTINCT"
            let arguments ← exprs fuel
            symbol ")"
            pure (callOf ⟨n, t.offset⟩ distinct arguments)
        else columnName t n

/-- The branches of a choice, the first `WHEN` read, and the value otherwise. -/
def caseBranches : Nat → Reader (List Branch × Expr)
  | 0 => fail
  | fuel + 1 => do
    let test ← expr 0 fuel
    keyword "THEN"
    let value ← expr 0 fuel
    if ← keyword? "WHEN" then
      let (rest, otherwise) ← caseBranches fuel
      pure (.mk test value :: rest, otherwise)
    else if ← keyword? "ELSE" then
      let otherwise ← expr 0 fuel
      keyword "END"
      pure ([.mk test value], otherwise)
    else
      keyword "END"
      pure ([.mk test value], .literal .null)

/-- A query. -/
def query : Nat → Reader Select
  | 0 => fail
  | fuel + 1 => do
    keyword "SELECT"
    let distinct ← keyword? "DISTINCT"
    if !distinct then
      let _ ← keyword? "ALL"
    let columns ← projections fuel
    let source ← source
    let condition ←
      if ← keyword? "WHERE" then expr 0 fuel
      else pure always
    let groups ←
      if ← keyword? "GROUP" then
        keyword "BY"
        groupTerms fuel
      else pure []
    let having ←
      if ← keyword? "HAVING" then expr 0 fuel
      else pure always
    let order ←
      if ← keyword? "ORDER" then
        keyword "BY"
        sortTerms fuel
      else pure []
    let (limit, offset) ←
      if ← keyword? "LIMIT" then
        let first ← expr 0 fuel
        if ← symbol? "," then
          let count ← expr 0 fuel
          pure (count, first)
        else if ← keyword? "OFFSET" then
          let offset ← expr 0 fuel
          pure (first, offset)
        else pure (first, noOffset)
      else pure (unlimited, noOffset)
    pure (namedSelect distinct columns source condition groups having order limit offset)

/-- Selected columns. -/
def projections : Nat → Reader (List Projection)
  | 0 => fail
  | fuel + 1 => do
    let first ←
      if ← symbol? "*" then pure (Projection.all none)
      else if ← allOfNext then
        let table ← name
        advance
        advance
        pure (Projection.all (some table))
      else
        let (e, tokens) ← withTokens (expr 0 fuel)
        let behind ← peek
        let given ← givenName?
        pure (.value e (given.getD (Token.spanned tokens behind)) given.isSome)
    if ← symbol? "," then
      let rest ← projections fuel
      pure (first :: rest)
    else pure [first]

/-- Terms of an order. -/
def sortTerms : Nat → Reader (List SortTerm)
  | 0 => fail
  | fuel + 1 => do
    let (e, tokens) ← withTokens (expr 0 fuel)
    let e := placed e tokens
    let down ← descending
    let great ← greatNull down
    if ← symbol? "," then
      let rest ← sortTerms fuel
      pure (.mk e down great :: rest)
    else pure [.mk e down great]

/-- Terms of groups. -/
def groupTerms : Nat → Reader (List Expr)
  | 0 => fail
  | fuel + 1 => do
    let (e, tokens) ← withTokens (expr 0 fuel)
    let e := placed e tokens
    if ← symbol? "," then
      let rest ← groupTerms fuel
      pure (e :: rest)
    else pure [e]

end

/-- Enough depth for what is left of a statement. -/
def depth : Reader Nat := do
  pure (8 * (← get).tokens.length + 8)

/-- An expression. -/
def expression : Reader Expr := do
  expr 0 (← depth)

end FilterStore.Sql
