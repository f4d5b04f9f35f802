import Daybook.Sql.Statement

/-!
# The text of statements

A statement is written as a row of fragments, each a piece of text or a value.  Only when the row is
complete are the values replaced by numbered placeholders.  So a value never becomes text, and the
placeholders count from 1 in the order of the values.
-/

namespace Daybook.Sql

inductive Fragment
  | text (words : String)
  | parameter (value : Value)
deriving DecidableEq

structure Compiled where
  sql : String
  values : List Value
deriving DecidableEq

namespace Fragment

def value? : Fragment → Option Value
  | text _ => none
  | parameter value => some value

-- The text of fragments whose first value has the number `next`.
def numbered (next : Nat) : List Fragment → String
  | [] => ""
  | text words :: rest => words ++ numbered next rest
  | parameter _ :: rest => "$" ++ toString next ++ numbered (next + 1) rest

def compile (fragments : List Fragment) : Compiled where
  sql := numbered 1 fragments
  values := fragments.filterMap value?

def joined (separator : String) (rows : List (List Fragment)) : List Fragment :=
  [text separator].intercalate rows

def clause (keyword separator : String) (rows : List (List Fragment)) : List Fragment :=
  if rows.isEmpty then [] else text keyword :: joined separator rows

end Fragment

def quoteName (name : String) : String :=
  "\"" ++ String.ofList (name.toList.flatMap fun c => if c = '"' then ['"', '"'] else [c]) ++ "\""

def Column.text (column : Column) : String :=
  match column.relation with
  | none => quoteName column.name
  | some relation => quoteName relation ++ "." ++ quoteName column.name

def Projection.text : Projection → String
  | every relation => quoteName relation ++ ".*"
  | plain column => column.text
  | named column name => column.text ++ " AS " ++ quoteName name
  | rowCount => "COUNT(*)"

def Comparison.symbol : Comparison → String
  | eq => "="
  | ne => "<>"
  | gt => ">"
  | lt => "<"
  | gte => ">="
  | lte => "<="
  | like => "LIKE"
  | ilike => "ILIKE"

namespace Condition

-- A column, a list operator and the values in parentheses.
def listFragments (column : Column) (operator : String) (values : List Value) : List Fragment :=
  .text (column.text ++ " " ++ operator ++ " (") ::
    Fragment.joined ", " (values.map fun value => [.parameter value]) ++ [.text ")"]

def numbersEqual (left right : Int32) : List Fragment :=
  [.parameter (.int (some left)), .text " = ", .parameter (.int (some right))]

/-- A condition.  No row is in an empty list, and every row is outside of it. -/
def fragments : Condition → List Fragment
  | compare column comparison value =>
    [.text (column.text ++ " " ++ comparison.symbol ++ " "), .parameter value]
  | anyOf _ [] => numbersEqual 1 2
  | anyOf column values => listFragments column "IN" values
  | noneOf _ [] => numbersEqual 1 1
  | noneOf column values => listFragments column "NOT IN" values

/-- An operator outside standard SQL binds weaker than `AND` as far as a reader can tell. -/
def needsParentheses : Condition → Bool
  | compare _ .ilike _ => true
  | _ => false

def conjunct (condition : Condition) : List Fragment :=
  if condition.needsParentheses then .text "(" :: condition.fragments ++ [.text ")"]
  else condition.fragments

def conjunction : List Condition → List (List Fragment)
  | [condition] => [condition.fragments]
  | conditions => conditions.map conjunct

end Condition

def Join.text (join : Join) : String :=
  let keyword := match join.kind with
    | .inner => " INNER JOIN "
    | .left => " LEFT JOIN "
  keyword ++ quoteName join.table ++ " ON " ++ join.left.text ++ " = " ++ join.right.text

def OrderTerm.text (term : OrderTerm) : String :=
  term.column.text ++ match term.direction with
    | .asc => " ASC"
    | .desc => " DESC"

namespace Clauses

def head (clauses : Clauses) : List Fragment :=
  .text "SELECT " ::
    Fragment.joined ", " (clauses.projections.map fun projection => [.text projection.text]) ++
    [.text " FROM "]

def tail (clauses : Clauses) : List Fragment :=
  (clauses.joins.map fun join => .text join.text) ++
  Fragment.clause " WHERE " " AND " (Condition.conjunction clauses.conditions) ++
  Fragment.clause " ORDER BY " ", " (clauses.order.map fun term => [.text term.text]) ++
  Fragment.clause " LIMIT " "" (clauses.limit.toList.map fun limit =>
    [.parameter (.bigUnsigned (some limit))]) ++
  Fragment.clause " OFFSET " "" (clauses.offset.toList.map fun offset =>
    [.parameter (.bigUnsigned (some offset))])

end Clauses

namespace Select

def fragments : Select → List Fragment
  | ofTable table clauses => clauses.head ++ .text (quoteName table) :: clauses.tail
  | ofSelect source name clauses =>
    clauses.head ++ .text "(" :: source.fragments ++ .text (") AS " ++ quoteName name) ::
      clauses.tail

def compile (query : Select) : Compiled :=
  Fragment.compile query.fragments

end Select

namespace Update

def fragments (update : Update) : List Fragment :=
  .text ("UPDATE " ++ quoteName update.table ++ " SET ") ::
    Fragment.joined ", " (update.assignments.map fun (column, value) =>
      [.text (quoteName column ++ " = "), .parameter value]) ++
    [.text (" WHERE " ++ quoteName update.keyColumn ++ " = "),
     .parameter (.bigInt (some update.key))]

def compile (update : Update) : Compiled :=
  Fragment.compile update.fragments

end Update

end Daybook.Sql
