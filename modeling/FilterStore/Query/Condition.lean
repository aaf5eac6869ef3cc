import FilterStore.Query.Clause

/-!
# The condition of a filter

A filter is compiled in one pass from left to right.  Each clause is put into parentheses and joined
to what stands before it, unless it is the first of the filter or of a group; brackets are written
as they come.  The pass knows three things: the position of the entry, whether a group has just been
opened, and how many groups are open.
-/

namespace FilterStore

namespace Condition

/-- What stands between an entry and the one before it. -/
def joint (atStart : Bool) (c : Connective) : Query := if atStart then .empty else .text c.joiner

/-- A condition in parentheses. -/
def enclosed (q : Query) : Query := .text "(" ++ q ++ .text ")"

@[simp] theorem values_joint (atStart : Bool) (c : Connective) : (joint atStart c).values = [] := by
  cases atStart <;> rfl

@[simp] theorem sql_enclosed (q : Query) : (enclosed q).sql = "(" ++ q.sql ++ ")" := rfl

@[simp] theorem values_enclosed (q : Query) : (enclosed q).values = q.values := by
  simp [enclosed]

/-- Compiles entries, the first of them at a position, after an opened group or not, inside a count
of open groups. -/
def compileFrom (r : Registry) (t : TableDefinition) (joining : Connective) :
    Nat → Bool → Nat → List Entry → Except Error Query
  | index, _, depth, [] =>
    if depth = 0 then .ok .empty else .error (.unsupportedEntry index (.leftOpen depth))
  | index, atStart, depth, .opening c :: rest => do
    let inside ← compileFrom r t joining (index + 1) true (depth + 1) rest
    .ok (joint atStart (c.getD joining) ++ .text "(" ++ inside)
  | index, atStart, depth, .closing :: rest =>
    if depth = 0 then .error (.unsupportedEntry index .closeWithoutOpen)
    else if atStart then .error (.unsupportedEntry index .emptyGroup)
    else do
      let after ← compileFrom r t joining (index + 1) false (depth - 1) rest
      .ok (.text ")" ++ after)
  | index, atStart, depth, .raw raw :: rest => do
    raw.check index
    let after ← compileFrom r t joining (index + 1) false depth rest
    .ok (joint atStart joining ++ enclosed raw.query ++ after)
  | index, atStart, depth, .column c :: rest => do
    let body ← c.compile r t index
    let after ← compileFrom r t joining (index + 1) false depth rest
    .ok (joint atStart (c.connective.getD joining) ++ enclosed body ++ after)

/-- Compiles the entries of a filter. -/
def compile (r : Registry) (t : TableDefinition) (joining : Connective) (filter : List Entry) :
    Except Error Query :=
  compileFrom r t joining 0 true 0 filter

end Condition

namespace Registry

/-- The table of a request. -/
def target (r : Registry) (table : String) : Except Error TableDefinition :=
  match r.table? table with
  | some t => .ok t
  | none => .error (.unknownTable (Text.trim table))

theorem target_eq_ok_iff {r : Registry} {table : String} {t : TableDefinition} :
    r.target table = .ok t ↔ r.table? table = some t := by
  unfold target
  cases r.table? table <;> simp

/-- The condition of a filter without the word `WHERE`; an empty filter has none. -/
def compileWhere (r : Registry) (table : String) (filter : List Entry)
    (connective : Option Connective) : Except Error (Option Query) := do
  let t ← r.target table
  if filter.isEmpty then .ok none
  else (Condition.compile r t (connective.getD .and) filter).map some

end Registry

end FilterStore
