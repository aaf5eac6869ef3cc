import FilterStore.Sql.TableReader

/-!
# Reading statements

A statement ends at a semicolon or at the end of the text, and what stands behind the semicolon is
left for the next.  Statements that consist of a semicolon alone are skipped.
-/

namespace FilterStore.Sql

open Reader

/-! ## Indexes, triggers and views -/

/-- A term of an index at a place: a text by itself is the name of a column. -/
def indexTerm (offset : Nat) : Expr → Expr
  | .literal (.text name) => .column { table := none, name, quoted := false, offset }
  | .collate (.literal (.text name)) collation =>
    .collate (.column { table := none, name, quoted := false, offset }) collation
  | e => e

/-- The terms of an index. -/
def indexTerms : Nat → Reader (List Expr)
  | 0 => fail
  | fuel + 1 => do
    let offset := (← peek).offset
    let e ← indexTerm offset <$> expression
    let _ ← descending
    if ← symbol? "," then
      let rest ← indexTerms fuel
      pure (e :: rest)
    else pure [e]

/-- An index, its first words read. -/
def createIndex (unique : Bool) : Reader Definition := do
  let ifNotExists ← ifNotExistsPhrase
  schemaPhrase
  let ((index, table, terms, condition), tokens) ← withTokens do
    let index ← name
    keyword "ON"
    let table ← name
    symbol "("
    let terms ← indexTerms (← depth)
    symbol ")"
    let condition ←
      if ← keyword? "WHERE" then
        let e ← expression
        pure (some e)
      else pure none
    pure (index, table, terms, condition)
  let gap ← blankBefore
  pure (.createIndex ifNotExists unique index table terms condition
    ((if unique then "CREATE UNIQUE INDEX " else "CREATE INDEX ") ++ Token.joined tokens ++ gap))

/-- The time of a trigger; `BEFORE` unless it is given. -/
def triggerTime : Reader TriggerTime := do
  if ← keyword? "BEFORE" then pure .before
  else if ← keyword? "AFTER" then pure .after
  else if ← keyword? "INSTEAD" then
    keyword "OF"
    pure .insteadOf
  else pure .before

/-- What a trigger waits for. -/
def triggerEvent : Reader TriggerEvent := do
  if ← keyword? "INSERT" then pure .insert
  else if ← keyword? "DELETE" then pure .delete
  else
    keyword "UPDATE"
    if ← keyword? "OF" then
      let columns ← separated name (← depth)
      pure (.update (some columns))
    else pure (.update none)

/-- The statements of a trigger up to `END`, at least one. -/
def triggerBody : Nat → Reader (List Change)
  | 0 => fail
  | fuel + 1 => do
    match ← change? with
    | some c =>
      symbol ";"
      if ← keyword? "END" then pure [c]
      else
        let rest ← triggerBody fuel
        pure (c :: rest)
    | none => fail

/-- A trigger, its first words read. -/
def createTrigger (temporary : Bool) : Reader Definition := do
  let creation ← creationHead temporary
  let ((table, time, event, condition, body), tokens) ← withTokens do
    let _ ← name
    let time ← triggerTime
    let event ← triggerEvent
    keyword "ON"
    let table ← tableName
    if ← keyword? "FOR" then keywords ["EACH", "ROW"]
    let condition ← conditionAfter "WHEN"
    keyword "BEGIN"
    let body ← triggerBody (← depth)
    pure (table, time, event, condition, body)
  pure (.createTrigger creation table time event condition body
    ("CREATE TRIGGER " ++ Token.joined tokens))

/-- A view, its first words read. -/
def createView (temporary : Bool) : Reader Definition := do
  let creation ← creationHead temporary
  let ((columns, rows), tokens) ← withTokens do
    let _ ← name
    let columns ←
      if (← peek).isSymbol "(" then
        let columns ← bracketedNames
        pure (some columns)
      else pure none
    keyword "AS"
    let rows ← query (← depth)
    pure (columns, rows)
  pure (.createView creation columns rows
    ("CREATE VIEW " ++ Token.joined tokens))

/-- What is created. -/
def creation : Reader Definition := do
  if ← keyword? "UNIQUE" then
    keyword "INDEX"
    createIndex true
  else if ← keyword? "INDEX" then createIndex false
  else
    let temporary ← do
      if ← keyword? "TEMP" then pure true else keyword? "TEMPORARY"
    if ← keyword? "TABLE" then createTable temporary
    else if ← keyword? "TRIGGER" then createTrigger temporary
    else
      keyword "VIEW"
      createView temporary

/-- What is dropped. -/
def removal : Reader Definition := do
  if ← keyword? "TABLE" then
    let ifExists ← ifExistsPhrase
    let n ← tableName
    pure (.dropTable ifExists n)
  else if ← keyword? "INDEX" then
    let ifExists ← ifExistsPhrase
    let n ← tableName
    pure (.dropIndex ifExists n)
  else if ← keyword? "TRIGGER" then
    let ifExists ← ifExistsPhrase
    let n ← tableName
    pure (.dropTrigger ifExists n)
  else
    keyword "VIEW"
    let ifExists ← ifExistsPhrase
    let n ← tableName
    pure (.dropView ifExists n)

/-! ## Transactions -/

/-- The name of a transaction, which has no meaning, if it stands next. -/
def transactionPhrase : Reader Unit := do
  if ← keyword? "TRANSACTION" then
    if (← peek).name?.isSome && !(← peek).isKeyword "TO" then advance

/-- A statement that begins or ends a transaction, if the next word starts one. -/
def control? : Reader (Option Control) := do
  if ← keyword? "BEGIN" then
    if ← keyword? "DEFERRED" then pure ()
    else if ← keyword? "IMMEDIATE" then pure ()
    else
      let _ ← keyword? "EXCLUSIVE"
    transactionPhrase
    pure (some .begin)
  else if (← peek).isKeyword "COMMIT" || (← peek).isKeyword "END" then
    advance
    transactionPhrase
    pure (some .commit)
  else if ← keyword? "ROLLBACK" then
    transactionPhrase
    if ← keyword? "TO" then
      let _ ← keyword? "SAVEPOINT"
      let n ← name
      pure (some (.rollbackTo n))
    else pure (some .rollback)
  else if ← keyword? "SAVEPOINT" then
    let n ← name
    pure (some (.mark n))
  else if ← keyword? "RELEASE" then
    let _ ← keyword? "SAVEPOINT"
    let n ← name
    pure (some (.release n))
  else pure none

/-! ## Statements -/

/-- A statement on the schema, if the next word starts one. -/
def definition? : Reader (Option Definition) := do
  if ← keyword? "CREATE" then
    let d ← creation
    pure (some d)
  else if ← keyword? "ALTER" then
    keyword "TABLE"
    let d ← addColumn
    pure (some d)
  else if ← keyword? "DROP" then
    let d ← removal
    pure (some d)
  else pure none

/-- A statement without what ends it. -/
def bareStatement : Reader Statement := do
  match ← change? with
  | some c => pure (.change c)
  | none =>
    match ← definition? with
    | some d => pure (.define d)
    | none =>
      match ← control? with
      | some c => pure (.control c)
      | none => fail

/-- A statement up to the end of the text or the semicolon behind it. -/
def endedStatement : Reader Statement := do
  let s ← bareStatement
  if (← peek).kind == .finish then pure s
  else
    symbol ";"
    pure s

/-- A statement that has been read. -/
structure Parsed where
  statement : Statement
  parameters : Nat
  /-- What stands behind the statement. -/
  rest : String

/-- Reads the first statement of tokens, if there is one. -/
def Parsed.ofTokens (tokens : List Token) : Except Fault (Option Parsed) :=
  let tokens := tokens.dropWhile fun t => t.isSymbol ";"
  match tokens with
  | [] => .ok none
  | t :: _ =>
    if t.kind == .finish then .ok none
    else do
      let start : Remainder := { tokens, parameters := 0, named := [] }
      let (s, r) ← endedStatement.run start
      .ok (some
        { statement := s, parameters := r.parameters
          rest := String.join (r.tokens.map Token.written) })

/-- Reads the first statement of a text, if there is one. -/
def Parsed.ofText (s : String) : Except Fault (Option Parsed) := Parsed.ofTokens (Token.ofText s)

end FilterStore.Sql
