import FilterStore.Sql.ChangeReader
import FilterStore.Sql.Fault

/-!
# Reading tables

A table is read into its parts: columns, keys, references and conditions.  What is wrong with a
definition that can be read is noted with its parts, and only the first such flaw counts.

Definitions keep part of their own text.  It starts at the name of the table, so the words in front
of it --- with them `IF NOT EXISTS` --- are written anew and always alike.
-/

namespace FilterStore.Sql

open Reader

/-- Whether `IF NOT EXISTS` stands next. -/
def ifNotExistsPhrase : Reader Bool := do
  if (← peek).isKeyword "IF" && (← peekSecond).isKeyword "NOT" then
    keywords ["IF", "NOT", "EXISTS"]
    pure true
  else pure false

/-- Whether `IF EXISTS` stands next. -/
def ifExistsPhrase : Reader Bool := do
  if (← peek).isKeyword "IF" && (← peekSecond).isKeyword "EXISTS" then
    keywords ["IF", "EXISTS"]
    pure true
  else pure false

/-- The types that are always shown in upper case. -/
def standardTypes : List String := ["ANY", "BLOB", "INT", "INTEGER", "REAL", "TEXT"]

/-- A declared type as it is remembered. -/
def typeText (written : String) : String :=
  if standardTypes.contains (Text.upper written) then Text.upper written else written

/-- A declared type. -/
def declaredType : Reader String := do
  let written ← writtenType
  pure (typeText written)

/-- What follows a conflict with a constraint, if the constraint says so. -/
def conflictPhrase : Reader (Option Conflict) := do
  if ← keyword? "ON" then
    keyword "CONFLICT"
    let c ← conflictWord
    pure (some c)
  else pure none

/-- What becomes of rows that refer to others. -/
def referenceAction : Reader ReferenceAction := do
  if ← keyword? "SET" then
    if ← keyword? "NULL" then pure .setNull
    else
      keyword "DEFAULT"
      pure .setDefault
  else if ← keyword? "CASCADE" then pure .cascade
  else if ← keyword? "RESTRICT" then pure .restrict
  else
    keywords ["NO", "ACTION"]
    pure .nothing

/-- What follows a reference. -/
def referenceDetails (r : Reference) : Nat → Reader Reference
  | 0 => pure r
  | fuel + 1 => do
    if ← keyword? "ON" then
      if ← keyword? "DELETE" then
        let onDelete ← referenceAction
        referenceDetails { r with onDelete } fuel
      else if ← keyword? "INSERT" then
        let _ ← referenceAction
        referenceDetails r fuel
      else
        keyword "UPDATE"
        let onUpdate ← referenceAction
        referenceDetails { r with onUpdate } fuel
    else if ← keyword? "MATCH" then
      let _ ← name
      referenceDetails r fuel
    else pure r

/-- Whether it is said next when references are checked. -/
def checkTimeNext : Reader Bool := do
  let t ← peek
  if t.isKeyword "NOT" then pure ((← peekSecond).isKeyword "DEFERRABLE")
  else pure (t.isKeyword "DEFERRABLE")

/-- Whether a reference may be broken until the transaction ends. -/
def checkTime : Reader Bool := do
  let no ← keyword? "NOT"
  keyword "DEFERRABLE"
  if ← keyword? "INITIALLY" then
    if ← keyword? "DEFERRED" then pure !no
    else
      keyword "IMMEDIATE"
      pure false
  else pure false

/-- The table and columns that are referred to. -/
def referenceTo (columns : List String) : Reader Reference := do
  keyword "REFERENCES"
  let table ← name
  let parentColumns ←
    if (← peek).isSymbol "(" then
      let names ← bracketedNames
      pure (some names)
    else pure none
  let reference : Reference :=
    { columns, table, parentColumns, onDelete := .nothing, onUpdate := .nothing
      deferred := false }
  referenceDetails reference (← depth)

/-- An expression in brackets, with its text. -/
def bracketedExpr : Reader WrittenExpr := do
  let opening ← peek
  symbol "("
  let ((e, _), tokens) ← withTokens (withTokens expression)
  let text := Token.spanned ({ opening with blank := "", text := "" } :: tokens) (← peek)
  symbol ")"
  pure { expr := e, text := String.ofList (text.toList.dropWhile Token.continuesBlank) }

/-- A condition as it is reported: a text or a name in quotes that it starts with stands for the
whole of it. -/
def checkLabel (text : String) : String :=
  match (Token.ofText text).head? with
  | some t =>
    match t.kind with
    | .string | .quotedName => if t.blank.isEmpty then t.content else text
    | _ => text
  | none => text

/-- A default that is written without brackets: a literal, possibly with a sign, or a word. -/
def plainDefault : Reader Expr := do
  let minus ← symbol? "-"
  let signed ← if minus then pure true else symbol? "+"
  let t ← peek
  let c ←
    if minus && t.kind == .integer then do
      let c ← ofExcept (numeral true t)
      pure (some c)
    else ofExcept (literal? t)
  match c with
  | some c =>
    advance
    pure (if minus && t.kind != .integer then opposite (.literal c) else .literal c)
  | none =>
    if timeWords.any t.isKeyword then
      advance
      let now := Expr.call ⟨t.text, t.offset⟩ []
      pure (if minus then opposite now else now)
    else if signed then fail
    else
      let word ← name
      if t.isKeyword "TRUE" then pure (.literal (.integer 1))
      else if t.isKeyword "FALSE" then pure (.literal (.integer 0))
      else pure (.literal (.text word))

/-- The default of a column, with its text.  Brackets around it are not part of the text. -/
def defaultValue : Reader WrittenExpr := do
  if (← peek).isSymbol "(" then bracketedExpr
  else
    let (e, tokens) ← withTokens plainDefault
    pure { expr := e, text := Token.joined tokens }

/-- Notes that something is wrong with a definition, unless something was before. -/
def withFlaw (parts : TableParts) (fault : Fault) : TableParts :=
  { parts with flaw := parts.flaw <|> some fault }

/-- Whether there is a column of a name. -/
def hasColumn (parts : TableParts) (name : String) : Bool :=
  parts.columns.any fun c => Text.sameName c.name name

/-- Whether two keys say different things about what follows if values occur twice. -/
def disagree (columns : List Column) (a b : Key) : Bool :=
  a.conflict.isSome && b.conflict.isSome && a.conflict != b.conflict &&
    !namesRows columns a && !namesRows columns b && a.columns.length == b.columns.length &&
    (a.columns.zip b.columns).all fun (x, y) =>
      Text.sameName x.name y.name && x.collation == y.collation

/-- The parts of a table of a name with one more key.  `columns` are those there are so far. -/
def withKey (table : String) (columns : List Column) (parts : TableParts) (key : Key) :
    TableParts :=
  let parts :=
    if key.primary && parts.keys.any Key.primary then withFlaw parts (.twoPrimaryKeys table)
    else if key.lasting && !namesRows columns key then withFlaw parts .lastingKey
    else if parts.keys.any (disagree columns key) then withFlaw parts .conflictingClauses
    else parts
  { parts with keys := parts.keys ++ [key] }

/-- A key of one column, which is still being read. -/
def columnKey (column : Column) (primary descending lasting : Bool) (conflict : Option Conflict) :
    Key :=
  { columns := [{ name := column.name, collation := none }], primary, descending, conflict
    lasting }

/-- The parts of a table whose last reference is checked at a time. -/
def withCheckTime (parts : TableParts) (deferred : Bool) : TableParts :=
  match parts.references.reverse with
  | last :: others =>
    { parts with references := (others.reverse ++ [{ last with deferred }]) }
  | [] => parts

/-- The constraints of a column, read one after the other into the column and the parts of its
table.  `label` is the name given to the next constraint. -/
def columnConstraints (table : String) (column : Column) (parts : TableParts)
    (label : Option String) : Nat → Reader (Column × TableParts)
  | 0 => fail
  | fuel + 1 => do
    if ← keyword? "CONSTRAINT" then
      let label ← name
      columnConstraints table column parts (some label) fuel
    else if ← keyword? "PRIMARY" then
      keyword "KEY"
      let down ← descending
      let conflict ← conflictPhrase
      let lasting ← keyword? "AUTOINCREMENT"
      let key := columnKey column true down lasting conflict
      let parts := withKey table (parts.columns ++ [column]) parts key
      columnConstraints table column parts none fuel
    else if (← peek).isKeyword "NOT" && (← peekSecond).isKeyword "NULL" then
      keywords ["NOT", "NULL"]
      let onNull ← conflictPhrase
      columnConstraints table { column with notNull := true, onNull } parts none fuel
    else if ← keyword? "NULL" then
      let _ ← conflictPhrase
      columnConstraints table column parts none fuel
    else if ← keyword? "UNIQUE" then
      let conflict ← conflictPhrase
      let key := columnKey column false false false conflict
      let parts := withKey table (parts.columns ++ [column]) parts key
      columnConstraints table column parts none fuel
    else if ← keyword? "CHECK" then
      let check ← bracketedExpr
      let check := { check with text := label.getD (checkLabel check.text) }
      columnConstraints table column { parts with checks := parts.checks ++ [check] } none fuel
    else if ← keyword? "DEFAULT" then
      let value ← defaultValue
      let parts :=
        if value.expr.isFixed then parts else withFlaw parts (.variableDefault column.name)
      columnConstraints table { column with default := some value } parts none fuel
    else if ← keyword? "COLLATE" then
      let name ← name
      let parts :=
        if (Collation.ofName? name).isSome then parts else withFlaw parts (.noSuchCollation name)
      let collation := (Collation.ofName? name).getD column.collation
      columnConstraints table { column with collation } parts none fuel
    else if (← peek).isKeyword "REFERENCES" then
      let reference ← referenceTo [column.name]
      let parts := { parts with references := parts.references ++ [reference] }
      columnConstraints table column parts none fuel
    else if ← checkTimeNext then
      let deferred ← checkTime
      columnConstraints table column (withCheckTime parts deferred) none fuel
    else pure (column, parts)

/-- A column, read into the parts of its table.  Its name should not be taken yet. -/
def column (table : String) (parts : TableParts) : Reader (Column × TableParts) := do
  let name ← name
  let declaredType ← declaredType
  let parts := if hasColumn parts name then withFlaw parts (.duplicateColumn name) else parts
  let column : Column :=
    { name, declaredType, notNull := false, onNull := none, collation := .binary
      default := none }
  columnConstraints table column parts none (← depth)

/-- Whether a constraint of the table stands next. -/
def constraintNext : Reader Bool := do
  let t ← peek
  pure (["CONSTRAINT", "PRIMARY", "UNIQUE", "CHECK", "FOREIGN"].any t.isKeyword)

/-- The columns of a table. -/
def columns (table : String) (parts : TableParts) : Nat → Reader TableParts
  | 0 => fail
  | fuel + 1 => do
    let (c, parts) ← column table parts
    let parts := { parts with columns := parts.columns ++ [c] }
    if (← peek).isSymbol "," then
      let r ← get
      advance
      if ← constraintNext then
        set r
        pure parts
      else columns table parts fuel
    else pure parts

/-- A column of a key, with a collation of its own if it has one. -/
def keyColumn? : Expr → Option (KeyColumn × Nat)
  | .column c => if c.table.isNone then some (⟨c.name, none⟩, c.offset) else none
  | .literal (.text s) => some (⟨s, none⟩, 0)
  | .collate (.column c) name =>
    if c.table.isNone then some (⟨c.name, Collation.ofName? name⟩, c.offset) else none
  | _ => none

/-- What is wrong with a term of a key, if anything is. -/
def keyFlaw? (parts : TableParts) (e : Expr) : Option Fault :=
  match e, keyColumn? e with
  | .collate _ name, some _ =>
    if (Collation.ofName? name).isSome then none else some (.noSuchCollation name)
  | _, some (k, offset) =>
    if hasColumn parts k.name then none else some (.noSuchColumn k.name (some offset))
  | _, none => some .keyExpression

/-- A term of a key. -/
def keyTerm : Reader Expr := do
  let e ← expression
  let _ ← descending
  pure e

/-- A key over columns that should be there. -/
def tableKey (table : String) (parts : TableParts) (primary : Bool) : Reader TableParts := do
  symbol "("
  let terms ← separated keyTerm (← depth)
  let lasting ← if primary then keyword? "AUTOINCREMENT" else pure false
  symbol ")"
  let conflict ← conflictPhrase
  let columns := terms.filterMap fun e => (keyColumn? e).map (·.1)
  let key : Key := { columns, primary, descending := false, conflict, lasting }
  let parts := withKey table parts.columns parts key
  pure (((terms.filterMap (keyFlaw? parts)).head?.map (withFlaw parts)).getD parts)

/-- What is wrong with a reference of columns, if anything is. -/
def referenceFlaw? (parts : TableParts) (r : Reference) : Option Fault :=
  if r.parentColumns.any fun parents => parents.length ≠ r.columns.length then some .referenceSize
  else (r.columns.find? fun c => !hasColumn parts c).map .unknownReferring

/-- One constraint of a table. -/
def tableConstraint (table : String) (parts : TableParts) : Reader TableParts := do
  let label ←
    if ← keyword? "CONSTRAINT" then
      let label ← name
      pure (some label)
    else pure none
  if ← keyword? "PRIMARY" then
    keyword "KEY"
    tableKey table parts true
  else if ← keyword? "UNIQUE" then tableKey table parts false
  else if ← keyword? "CHECK" then
    let check ← bracketedExpr
    let _ ← conflictPhrase
    let check := { check with text := label.getD (checkLabel check.text) }
    pure { parts with checks := parts.checks ++ [check] }
  else
    keywords ["FOREIGN", "KEY"]
    let columns ← bracketedNames
    let reference ← referenceTo columns
    let reference ←
      if ← checkTimeNext then do
        let deferred ← checkTime
        pure { reference with deferred }
      else pure reference
    let parts :=
      match referenceFlaw? parts reference with
      | some fault => withFlaw parts fault
      | none => parts
    pure { parts with references := parts.references ++ [reference] }

/-- The constraints of a table, the first behind a comma, which may stand before the others too. -/
def tableConstraints (table : String) (parts : TableParts) : Nat → Reader TableParts
  | 0 => fail
  | fuel + 1 => do
    if ← symbol? "," then
      let parts ← tableConstraint table parts
      tableConstraints table parts fuel
    else if ← constraintNext then
      let parts ← tableConstraint table parts
      tableConstraints table parts fuel
    else pure parts

/-- Nothing defined yet. -/
def noParts : TableParts :=
  { columns := [], keys := [], references := [], checks := [], flaw := none }

/-- The blanks in front of the next token. -/
def blankBefore : Reader String := do
  pure (← peek).blank

/-- The name that stands next, as it is written. -/
def mention : Reader Mention := do
  let t ← peek
  pure { written := t.text, offset := t.offset }

/-- Leaves the name of a schema behind, if it stands next. -/
def schemaPhrase : Reader Unit := do
  if (← peekSecond).isSymbol "." && schemaNames.contains (Text.upper (← peek).text) then
    advance
    advance

/-- What stands in front of the rest of a definition: whether it may be passed over, and a name. -/
def creationHead (temporary : Bool) : Reader Creation := do
  let ifNotExists ← ifNotExistsPhrase
  schemaPhrase
  let mention ← mention
  let r ← get
  let name ← name
  set r
  pure { temporary, ifNotExists, name, mention }

/-- A table, its first words read. -/
def createTable (temporary : Bool) : Reader Definition := do
  let creation ← creationHead temporary
  let ((table, parts), head) ← withTokens do
    let table ← name
    symbol "("
    let parts ← columns table noParts (← depth)
    pure (table, parts)
  let gap ← blankBefore
  let (parts, tail) ← withTokens do
    let parts ← tableConstraints table parts (← depth)
    symbol ")"
    pure parts
  pure (.createTable creation parts
    ("CREATE TABLE " ++ Token.joined head ++ gap) (Token.joined tail))

/-- A column that is added to a table, its first words read. -/
def addColumn : Reader Definition := do
  let table ← tableName
  keyword "ADD"
  let _ ← keyword? "COLUMN"
  let ((column, parts), tokens) ← withTokens (column table noParts)
  pure (.addColumn table column parts (Token.joined tokens))

end FilterStore.Sql
