import FilterStore.Value.Basic

/-!
# Queries and their placeholders

A query is a text of SQL and the cells for its placeholders, left to right.  Queries are put
together end to end: the texts are joined and so are the cells, and the query without text and cells
is neutral.

A placeholder is a question mark outside quotes.  Whether a character stands inside quotes depends
on what was read before it, so the count is a scan with one piece of memory: the character that
would close the open quote.  A doubled quote closes and opens again, which is the same as not
closing.
-/

namespace FilterStore

/-- SQL with the cells for its placeholders. -/
structure Query where
  sql : String
  values : List Cell
  deriving Inhabited

namespace Query

/-- A text without cells. -/
def text (sql : String) : Query := ⟨sql, []⟩

/-- The query without text and cells. -/
def empty : Query := text ""

/-- One query behind the other. -/
def append (a b : Query) : Query := ⟨a.sql ++ b.sql, a.values ++ b.values⟩

instance : Append Query := ⟨append⟩

@[simp] theorem sql_append (a b : Query) : (a ++ b).sql = a.sql ++ b.sql := rfl

@[simp] theorem values_append (a b : Query) : (a ++ b).values = a.values ++ b.values := rfl

@[simp] theorem sql_text (s : String) : (text s).sql = s := rfl

@[simp] theorem values_text (s : String) : (text s).values = [] := rfl

@[simp] theorem sql_empty : empty.sql = "" := rfl

@[simp] theorem values_empty : empty.values = [] := rfl

@[ext] theorem ext {a b : Query} (sql : a.sql = b.sql) (values : a.values = b.values) : a = b := by
  cases a
  cases b
  exact congr (congrArg mk sql) values

@[simp] theorem append_empty (q : Query) : q ++ empty = q := by
  ext1 <;> simp

@[simp] theorem empty_append (q : Query) : empty ++ q = q := by
  ext1 <;> simp

theorem append_assoc (a b c : Query) : a ++ b ++ c = a ++ (b ++ c) := by
  ext1
  · exact String.append_assoc
  · exact List.append_assoc ..

end Query

namespace Placeholder

/-- The character that closes a quote which a character opens. -/
def closing? (c : Char) : Option Char :=
  if c = '\x27' ∨ c = '"' ∨ c = '\x60' then some c
  else if c = '[' then some ']'
  else none

/-- The quote that is open after one more character. -/
def step (quote : Option Char) (c : Char) : Option Char :=
  match quote with
  | some q => if c = q then none else some q
  | none => closing? c

/-- The quote that is open after a text. -/
def quoteAfter (quote : Option Char) (cs : List Char) : Option Char := cs.foldl step quote

/-- The placeholders of a text that starts inside the given quote. -/
def countFrom (quote : Option Char) : List Char → Nat
  | [] => 0
  | c :: rest => (if quote = none ∧ c = '?' then 1 else 0) + countFrom (step quote c) rest

/-- The placeholders of a statement. -/
def count (sql : String) : Nat := countFrom none sql.toList

end Placeholder

/-- How many cells the text of a query asks for. -/
def Query.placeholders (q : Query) : Nat := Placeholder.count q.sql

end FilterStore
