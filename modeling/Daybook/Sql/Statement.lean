import Daybook.Sql.Value
import Daybook.Text.Split

/-!
# Statements

Queries and updates as data.  A query reads from a table or from another query under a name, so
that filters and pages can be laid around a query that is already there.
-/

namespace Daybook

/-! ## Directions

Which end a sort starts from.
-/

inductive Direction
  | asc
  | desc
deriving DecidableEq, Repr

namespace Direction

def wireName : Direction → String
  | asc => "asc"
  | desc => "desc"

/-- A direction is `asc` or `desc` in any letter case, with any blanks around it. -/
def read? (raw : List Char) : Option Direction :=
  let word := String.ofList ((Text.trim raw).map Char.toLower)
  if word = asc.wireName then some asc
  else if word = desc.wireName then some desc
  else none

end Direction

end Daybook

namespace Daybook.Sql

/-- A column, of a named relation or of the only one at hand. -/
structure Column where
  relation : Option String := none
  name : String
deriving DecidableEq

inductive Projection
  | every (relation : String)
  | plain (column : Column)
  | named (column : Column) (name : String)
  -- The number of rows, in place of the rows.
  | rowCount
deriving DecidableEq

inductive Comparison
  | eq
  | ne
  | gt
  | lt
  | gte
  | lte
  | like
  | ilike
deriving DecidableEq, Repr

inductive Condition
  | compare (column : Column) (comparison : Comparison) (value : Value)
  | anyOf (column : Column) (values : List Value)
  | noneOf (column : Column) (values : List Value)
deriving DecidableEq

inductive JoinKind
  | inner
  | left
deriving DecidableEq, Repr

-- A table joined where two columns are equal.
structure Join where
  kind : JoinKind
  table : String
  left : Column
  right : Column
deriving DecidableEq

structure OrderTerm where
  column : Column
  direction : Direction
deriving DecidableEq

structure Clauses where
  projections : List Projection
  joins : List Join := []
  conditions : List Condition := []
  order : List OrderTerm := []
  limit : Option Nat := none
  offset : Option Nat := none
deriving DecidableEq

/-- A query on a table, or on another query under a name. -/
inductive Select
  | ofTable (table : String) (clauses : Clauses)
  | ofSelect (source : Select) (name : String) (clauses : Clauses)
deriving DecidableEq

namespace Select

def clauses : Select → Clauses
  | ofTable _ clauses => clauses
  | ofSelect _ _ clauses => clauses

def mapClauses (change : Clauses → Clauses) : Select → Select
  | ofTable table clauses => ofTable table (change clauses)
  | ofSelect source name clauses => ofSelect source name (change clauses)

def filteredBy (query : Select) (conditions : List Condition) : Select :=
  query.mapClauses fun clauses =>
    { clauses with conditions := clauses.conditions ++ conditions }

def orderedBy (query : Select) (terms : List OrderTerm) : Select :=
  query.mapClauses fun clauses => { clauses with order := clauses.order ++ terms }

def paged (query : Select) (limit offset : Nat) : Select :=
  query.mapClauses fun clauses => { clauses with limit := some limit, offset := some offset }

end Select

structure Update where
  table : String
  assignments : List (String × Value)
  keyColumn : String
  key : Int64
deriving DecidableEq

/-! ## Update sets

The assignments of a partial update.  A value that is not given leaves its column out; NULL is a
value like any other.
-/

structure UpdateSet where
  table : String
  assignments : List (String × Value) := []
deriving DecidableEq

namespace UpdateSet

def set (updates : UpdateSet) (column : String) (value : Option Value) : UpdateSet :=
  match value with
  | none => updates
  | some value => { updates with assignments := updates.assignments ++ [(column, value)] }

def isEmpty (updates : UpdateSet) : Bool :=
  updates.assignments.isEmpty

def columns (updates : UpdateSet) : List String :=
  updates.assignments.map Prod.fst

-- The update of the rows with a key, unless nothing is assigned.
def statement? (updates : UpdateSet) (keyColumn : String) (key : Int64) : Option Update :=
  if updates.isEmpty then none
  else some { table := updates.table, assignments := updates.assignments, keyColumn, key }

end UpdateSet

end Daybook.Sql
