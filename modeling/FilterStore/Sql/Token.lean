import FilterStore.Number.Total
import FilterStore.Text.Letter

/-!
# Tokens of SQL

A statement is cut into tokens without losing a character: each token keeps the blanks and comments
in front of it and its own text as it was written.  Parts of a statement that the engine has to
remember literally --- the text of a table, a default, the heading of a result column --- are
therefore tokens written back one after the other.

A text ends at a null character.  A mark of byte order is a blank where a token could start, and
else a letter of a word.  Between the digits of a number single low lines may stand.

Identifiers are words, or stand in double quotes, grave accents or square brackets, and where only a
name can stand a string is one.  A quote inside its own kind of quotes is written twice.  What is no
token, such as a text that is not closed, is an *illegal* token and stops the reader that meets it.
-/

namespace FilterStore.Sql

/-- The kinds of tokens. -/
inductive TokenKind
  /-- An identifier or a keyword. -/
  | word
  /-- An identifier in quotes of some kind. -/
  | quotedName
  | string
  | blob
  | integer
  | real
  /-- A question mark, possibly with a number, or a sign and a name. -/
  | parameter
  | symbol
  | illegal
  /-- The end of the text. -/
  | finish
  deriving DecidableEq, Repr

/-- A token with the blanks in front of it. -/
structure Token where
  kind : TokenKind
  blank : String
  text : String
  /-- How many bytes of the statement stand before the text. -/
  offset : Nat
  deriving DecidableEq, Repr

namespace Token

/-- The blanks between tokens. -/
def isBlank (c : Char) : Bool :=
  c == ' ' || c == '\t' || c == '\n' || c == '\x0c' || c == '\r'

/-- The characters a word can start with. -/
def startsWord (c : Char) : Bool := c.isAlpha || c == '_' || 0x80 ≤ c.toNat

/-- The characters of a word. -/
def inWord (c : Char) : Bool := startsWord c || c.isDigit || c == '$'

/-- The length of a comment that runs to the mark `*/`, the mark included; without it the comment
runs to the end. -/
def blockLength : List Char → Nat
  | '*' :: '/' :: _ => 2
  | _ :: rest => blockLength rest + 1
  | [] => 0

/-- The mark of byte order. -/
def byteOrderMark : Char := '\uFEFF'

/-- Whether a character goes on with blanks: a vertical tab does, but does not start them. -/
def continuesBlank (c : Char) : Bool := isBlank c || c == '\x0b'

/-- The length of the blank or comment a text starts with; zero if there is none. -/
def blankLength : List Char → Nat
  | '-' :: '-' :: rest => 2 + (rest.takeWhile (· != '\n')).length
  | '/' :: '*' :: rest => 2 + blockLength rest
  | c :: rest =>
    if isBlank c then 1 + (rest.takeWhile continuesBlank).length
    else if c == byteOrderMark then 1
    else 0
  | [] => 0

/-- The length of a quoted text behind its opening quote, the closing quote included.  A doubled
quote does not close. -/
def quotedLength (quote : Char) : List Char → Option Nat
  | [] => none
  | [c] => if c = quote then some 1 else none
  | c :: d :: rest =>
    if c = quote then
      if d = quote then (quotedLength quote rest).map (· + 2) else some 1
    else (quotedLength quote (d :: rest)).map (· + 1)

/-- A quoted token: its kind if it is closed, and its length. -/
def quoted (kind : TokenKind) (quote : Char) (rest : List Char) : TokenKind × Nat :=
  match quotedLength quote rest with
  | some n => (kind, n + 1)
  | none => (.illegal, rest.length + 1)

/-- Whether a character stands in the digits of a number. -/
def inDigits (c : Char) : Bool := c.isDigit || c == '_'

/-- Whether a text starts with a digit. -/
def startsDigit (cs : List Char) : Bool := (cs.head?.map Char.isDigit).getD false

/-- The length of an exponent, sign and digits included; zero if there is none. -/
def exponentLength : List Char → Nat
  | c :: rest =>
    if c == 'e' || c == 'E' then
      match rest with
      | s :: more =>
        if s == '+' || s == '-' then
          if startsDigit more then 2 + (more.takeWhile inDigits).length else 0
        else if s.isDigit then 1 + (rest.takeWhile inDigits).length
        else 0
      | [] => 0
    else 0
  | [] => 0

def isHexDigit (c : Char) : Bool :=
  c.isDigit || ('a' ≤ c && c ≤ 'f') || ('A' ≤ c && c ≤ 'F')

/-- Whether a text starts with a hexadecimal digit. -/
def startsHexDigit (cs : List Char) : Bool := (cs.head?.map isHexDigit).getD false

/-- The length of a decimal number up to letters that may follow, and whether it has a fraction or
an exponent. -/
def decimalLength (cs : List Char) : Nat × Bool :=
  let whole := (cs.takeWhile inDigits).length
  let rest := cs.drop whole
  let fraction :=
    match rest with
    | '.' :: more => 1 + (more.takeWhile inDigits).length
    | _ => 0
  let exponent := exponentLength (rest.drop fraction)
  (whole + fraction + exponent, fraction ≠ 0 || exponent ≠ 0)

/-- The length of a number up to letters that may follow, and whether it has a fraction or an
exponent. -/
def numberLength (cs : List Char) : Nat × Bool :=
  match cs with
  | '0' :: x :: rest =>
    if (x == 'x' || x == 'X') && startsHexDigit rest then
      (2 + (rest.takeWhile fun c => isHexDigit c || c == '_').length, false)
    else decimalLength cs
  | _ => decimalLength cs

/-- A number: digits, possibly with a fraction and an exponent.  Letters directly behind it spoil
it. -/
def number (cs : List Char) : TokenKind × Nat :=
  let (length, broken) := numberLength cs
  let stray := ((cs.drop length).takeWhile inWord).length
  (if stray ≠ 0 then .illegal else if broken then .real else .integer, length + stray)

/-- The length of the name of a parameter.  Two colons may stand in it, and brackets at its end. -/
def parameterLength : Nat → List Char → Nat
  | named, ':' :: ':' :: rest => 2 + parameterLength named rest
  | named, c :: rest =>
    if inWord c then 1 + parameterLength (named + 1) rest
    else if c == '(' && named ≠ 0 then
      let n := (rest.takeWhile fun d => !continuesBlank d && d != ')').length
      if (rest.drop n).head? = some ')' then n + 2 else n + 1
    else 0
  | _, [] => 0

/-- A parameter that starts with a sign. -/
def signedParameter (rest : List Char) : TokenKind × Nat :=
  let n := parameterLength 0 rest
  (if rest.head?.map inWord = some true then .parameter else .illegal, n + 1)

/-- A blob: an even number of hexadecimal digits in quotes, behind the letter that was read. -/
def blobLiteral (rest : List Char) : TokenKind × Nat :=
  let digits := (rest.takeWhile isHexDigit).length
  match rest.drop digits with
  | '\x27' :: _ => (if digits % 2 = 0 then .blob else .illegal, digits + 3)
  | more => (.illegal, digits + 2 + (more.takeWhile (· != '\x27')).length)

/-- The kind and the length of the token a text starts with. -/
def lexeme : List Char → TokenKind × Nat
  | [] => (.illegal, 0)
  | c :: rest =>
    if c == '\x27' then quoted .string c rest
    else if c == '"' || c == '\x60' then quoted .quotedName c rest
    else if c == '[' then
      let n := (rest.takeWhile (· != ']')).length
      if n = rest.length then (.illegal, n + 1) else (.quotedName, n + 2)
    else if c == '?' then (.parameter, 1 + (rest.takeWhile Char.isDigit).length)
    else if c.isDigit then number (c :: rest)
    else if c == ':' || c == '@' || c == '$' then signedParameter rest
    else
      match c, rest with
      | '.', d :: _ => if d.isDigit then number (c :: rest) else (.symbol, 1)
      | 'x', '\x27' :: more | 'X', '\x27' :: more => blobLiteral more
      | '=', '=' :: _ | '<', '=' :: _ | '<', '>' :: _ | '<', '<' :: _ | '>', '=' :: _
      | '>', '>' :: _ | '!', '=' :: _ | '|', '|' :: _ => (.symbol, 2)
      | _, _ =>
        if startsWord c then (.word, 1 + (rest.takeWhile inWord).length)
        else if "()+-*/%=<>,;.&|~".toList.contains c then (.symbol, 1)
        else (.illegal, 1)

/-- How many bytes a text takes. -/
def byteLength (cs : List Char) : Nat := Number.total (cs.map fun c => c.utf8Size)

/-- The token behind all others. -/
def finishing (blank : List Char) (offset : Nat) : Token :=
  { kind := .finish, blank := String.ofList blank, text := "", offset }

/-- Cuts a text into tokens, the last of which stands for its end.  `blank` are the blanks read
since the last token, and `offset` the bytes read before the text. -/
def readAll (blank : List Char) (offset : Nat) : Nat → List Char → List Token
  | 0, _ | _, [] => [finishing blank offset]
  | fuel + 1, c :: cs =>
    let n := blankLength (c :: cs)
    if n ≠ 0 then
      let skipped := (c :: cs).take n
      readAll (blank ++ skipped) (offset + byteLength skipped) fuel ((c :: cs).drop n)
    else
      let (kind, n) := lexeme (c :: cs)
      let text := (c :: cs).take n
      { kind, blank := String.ofList blank, text := String.ofList text, offset } ::
        readAll [] (offset + byteLength text) fuel ((c :: cs).drop n)

/-- The tokens of a text.  Every step takes a character at least, so as many steps as there are
characters are enough. -/
def ofText (s : String) : List Token :=
  let cs := s.toList.takeWhile (· != Char.ofNat 0)
  readAll [] 0 cs.length cs

/-- A token written back with its blanks. -/
def written (t : Token) : String := t.blank ++ t.text

/-- Tokens written back, without the blanks in front of the first. -/
def joined : List Token → String
  | [] => ""
  | t :: rest => t.text ++ String.join (rest.map written)

/-- Tokens written back with what stands in front of the token behind them, but for blanks at the
end. -/
def spanned (tokens : List Token) (behind : Token) : String :=
  String.ofList
    (((joined tokens ++ behind.blank).toList.reverse.dropWhile continuesBlank).reverse)

/-- Whether the token is a symbol. -/
def isSymbol (t : Token) (symbol : String) : Bool := t.kind == .symbol && t.text == symbol

/-- Whether the token is a keyword, given in upper case. -/
def isKeyword (t : Token) (keyword : String) : Bool :=
  t.kind == .word && Text.upper t.text == keyword

/-- Drops the quotes around a text and one of each two quotes inside. -/
def unquote (quote : Char) : List Char → List Char
  | [] => []
  | [c] => if c = quote then [] else [c]
  | c :: d :: rest =>
    if c = quote then if d = quote then c :: unquote quote rest else []
    else c :: unquote quote (d :: rest)

/-- The text inside quotes. -/
def content (t : Token) : String :=
  match t.text.toList with
  | '[' :: rest => String.ofList (rest.take (rest.length - 1))
  | quote :: rest => String.ofList (unquote quote rest)
  | [] => ""

/-- Words that are keywords wherever they stand, and so name nothing unless they are quoted. -/
def reserved : List String :=
  ["ADD", "ALL", "ALTER", "AND", "AS", "AUTOINCREMENT", "BETWEEN", "CASE", "CHECK", "COLLATE",
   "COMMIT", "CONSTRAINT", "CREATE", "DEFAULT", "DEFERRABLE", "DELETE", "DISTINCT", "DROP", "ELSE",
   "ESCAPE", "EXCEPT", "EXISTS", "FOREIGN", "FROM", "GROUP", "HAVING", "IN", "INDEX", "INSERT",
   "INTERSECT", "INTO", "IS", "ISNULL", "JOIN", "LIMIT", "NOT", "NOTHING", "NOTNULL", "NULL", "ON",
   "OR", "ORDER", "PRIMARY", "REFERENCES", "RETURNING", "SELECT", "SET", "TABLE", "THEN", "TO",
   "TRANSACTION", "UNION", "UNIQUE", "UPDATE", "USING", "VALUES", "WHEN", "WHERE"]

/-- The name a token stands for, if it can be one. -/
def name? (t : Token) : Option String :=
  match t.kind with
  | .word => if reserved.contains (Text.upper t.text) then none else some t.text
  | .quotedName | .string => some t.content
  | _ => none

end Token

end FilterStore.Sql
