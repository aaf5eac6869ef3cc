/-!
# Quoted identifiers

A name that may hold any character is put into a statement between double quotes, with every double
quote inside it written twice.  Reading back needs one character of look-ahead: a doubled quote
stands for one, a single quote ends the name.  So the quoted form ends itself, and what follows it
cannot leak into the name unless it starts with a double quote.
-/

namespace FilterStore.Text

/-- The characters of a name with each double quote doubled. -/
def doubleQuotes : List Char → List Char
  | [] => []
  | c :: rest => if c = '"' then '"' :: '"' :: doubleQuotes rest else c :: doubleQuotes rest

/-- A name as a quoted identifier. -/
def quoteIdent (name : String) : String :=
  String.ofList ('"' :: (doubleQuotes name.toList ++ ['"']))

/-- Reads the inside of a quoted identifier: the name, and what follows the closing quote. -/
def readQuotedBody : List Char → Option (List Char × List Char)
  | [] => none
  | ['"'] => some ([], [])
  | '"' :: c :: rest =>
    if c = '"' then (readQuotedBody rest).map fun r => ('"' :: r.1, r.2)
    else some ([], c :: rest)
  | c :: rest => (readQuotedBody rest).map fun r => (c :: r.1, r.2)

/-- Reads a quoted identifier from the front of a text. -/
def readQuoted : List Char → Option (List Char × List Char)
  | '"' :: rest => readQuotedBody rest
  | _ => none

end FilterStore.Text
