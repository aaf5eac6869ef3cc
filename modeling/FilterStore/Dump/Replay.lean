import FilterStore.Text.Letter
import FilterStore.Text.Quoted

/-!
# Statements of a dump

The statements of a dump are run on databases that may have some of its objects already, so each is
changed to one that does not mind: behind its *head*, which says what is created, goes the phrase
`IF NOT EXISTS`, unless it is there already.  Whatever follows stays as it is, and a statement that
does not start with such a head stays as it is altogether.

The rows of a table are read and written by statements that name the table and its columns between
quotes, so these names may be anything.
-/

namespace FilterStore.Replay

open Text (isBlank)

/-- Whether a character is a letter of a keyword, given in capitals.  The long s is an s. -/
def isLetter (letter c : Char) : Bool :=
  c.toUpper == letter || (letter == 'S' && c == 'ſ')

/-- What follows a keyword. -/
def afterLetters? : List Char → List Char → Option (List Char)
  | [], cs => some cs
  | letter :: letters, c :: cs => if isLetter letter c then afterLetters? letters cs else none
  | _ :: _, [] => none

/-- What follows the blanks at the start, of which there is at least one. -/
def afterBlanks? : List Char → Option (List Char)
  | c :: cs => if isBlank c then some (cs.dropWhile isBlank) else none
  | [] => none

/-- What follows a keyword and the blanks behind it. -/
def afterWord? (word : String) (cs : List Char) : Option (List Char) :=
  (afterLetters? word.toList cs).bind afterBlanks?

/-- What follows one of several keywords and the blanks behind it. -/
def afterOne? (words : List String) (cs : List Char) : Option (List Char) :=
  words.findSome? fun word => afterWord? word cs

/-- Words that may stand before the kind of an object. -/
def modifiers : List String := ["TEMP", "TEMPORARY", "UNIQUE"]

/-- The kinds of objects. -/
def kinds : List String := ["TABLE", "INDEX", "TRIGGER", "VIEW"]

/-- What follows the head of a statement. -/
def afterHead? (cs : List Char) : Option (List Char) := do
  let cs ← afterWord? "CREATE" (cs.dropWhile isBlank)
  afterOne? kinds ((afterOne? modifiers cs).getD cs)

/-- What follows the phrase that asks not to mind. -/
def afterPhrase? (cs : List Char) : Option (List Char) := do
  let cs ← afterWord? "IF" cs
  let cs ← afterWord? "NOT" cs
  afterWord? "EXISTS" cs

/-- The phrase that asks not to mind. -/
def phrase : List Char := "IF NOT EXISTS ".toList

/-- The characters of a statement that does not mind. -/
def tolerantChars (cs : List Char) : List Char :=
  match afterHead? cs with
  | none => cs
  | some rest => cs.take (cs.length - rest.length) ++ phrase ++ (afterPhrase? rest).getD rest

/-- A statement that does not mind if what it creates is there already. -/
def tolerant (sql : String) : String := String.ofList (tolerantChars sql.toList)

/-- Names between quotes, with commas. -/
def quotedNames (names : List String) : String := ", ".intercalate (names.map Text.quoteIdent)

/-- Reads the rows of a table. -/
def selectSql (table : String) (columns : List String) : String :=
  "SELECT " ++ quotedNames columns ++ " FROM " ++ Text.quoteIdent table

/-- Inserts a row into a table, unless it may not be stored. -/
def insertSql (table : String) (columns : List String) : String :=
  "INSERT OR IGNORE INTO " ++ Text.quoteIdent table ++ " (" ++ quotedNames columns ++
    ") VALUES (" ++ ", ".intercalate (columns.map fun _ => "?") ++ ")"

end FilterStore.Replay
