import FilterStore.Text.Letter

/-!
# Operators of a clause

An operator is written with any case and any blanks between its words.  A comparison keeps the
spelling it was given, since `=` and `==` mean the same to the engine; `RLIKE` is another word for
`REGEXP`.
-/

namespace FilterStore

open Text (words upper)

/-- A comparison of two single values, one constructor a spelling. -/
inductive Comparison
  | eq
  | eqEq
  | bangEq
  | ltGt
  | lt
  | le
  | gt
  | ge
  deriving DecidableEq, Repr

def Comparison.sql : Comparison → String
  | eq => "="
  | eqEq => "=="
  | bangEq => "!="
  | ltGt => "<>"
  | lt => "<"
  | le => "<="
  | gt => ">"
  | ge => ">="

/-- An operator of a column clause. -/
inductive Operator
  | compare (c : Comparison)
  | like
  | notLike
  | regexp
  | between
  | notBetween
  | isIn
  | notIn
  | isNull
  | notNull
  | hasRows
  | hasNoRows
  | all
  | any
  deriving DecidableEq, Repr

namespace Operator

/-- The words of every operator, and `RLIKE`. -/
def spellings : List (String × Operator) :=
  [("=", compare .eq), ("==", compare .eqEq), ("!=", compare .bangEq), ("<>", compare .ltGt),
   ("<", compare .lt), ("<=", compare .le), (">", compare .gt), (">=", compare .ge),
   ("LIKE", like), ("NOT LIKE", notLike), ("REGEXP", regexp), ("RLIKE", regexp),
   ("BETWEEN", between), ("NOT BETWEEN", notBetween), ("IN", isIn), ("NOT IN", notIn),
   ("ISNULL", isNull), ("NOT ISNULL", notNull), ("EXISTS", hasRows), ("NOT EXISTS", hasNoRows),
   ("ALL", all), ("ANY", any)]

/-- An operator's words in upper case with single spaces between them. -/
def normalize (s : String) : String := upper (" ".intercalate (words s))

/-- Reads an operator. -/
def parse? (s : String) : Option Operator := spellings.lookup (normalize s)

/-- The operator's own spelling. -/
def name : Operator → String
  | compare c => c.sql
  | like => "LIKE"
  | notLike => "NOT LIKE"
  | regexp => "REGEXP"
  | between => "BETWEEN"
  | notBetween => "NOT BETWEEN"
  | isIn => "IN"
  | notIn => "NOT IN"
  | isNull => "ISNULL"
  | notNull => "NOT ISNULL"
  | hasRows => "EXISTS"
  | hasNoRows => "NOT EXISTS"
  | all => "ALL"
  | any => "ANY"

end Operator

end FilterStore
