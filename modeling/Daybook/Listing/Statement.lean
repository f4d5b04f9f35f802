import Daybook.Listing.Params
import Daybook.Sql.Statement
import Daybook.Sql.Value

/-!
# Listing statements

Filters and sorts become conditions and terms to order by, and these are laid around the source of a
resource.
-/

namespace Daybook.Listing

/-! ## Filters and sorts as SQL

Each filter becomes a condition on a column of the source, and each sort a term to order by.  A
column's name is checked before it enters a statement.  Pattern operators look for their value as it
stands, so the characters that a pattern gives a meaning are escaped.
-/

-- The name under which filters and sorts read the source.
def sourceName : String := "p"

def startsName (c : Char) : Bool := c.isLower || c == '_'

/-- A column name is made of small ASCII letters, digits and underscores, and starts with no
digit. -/
def isColumnName : List Char → Bool
  | [] => false
  | c :: s => startsName c && s.all fun d => startsName d || d.isDigit

def sourceColumn (name : String) : Except Sql.Fault Sql.Column :=
  if isColumnName name.toList then .ok ⟨some sourceName, name⟩
  else .error (.invalidIdentifier name)

/-! ### Conditions -/

def FieldValue.sqlValue : FieldValue → Sql.Value
  | text value => .string (some value)
  | integer value => .bigInt (some value)
  | boolean value => .bool (some value)
  | date value => .date (some value)

-- A backslash in front of each character that a pattern gives a meaning.
def escapePattern (s : List Char) : List Char :=
  s.flatMap fun c => if c = '\\' ∨ c = '%' ∨ c = '_' then ['\\', c] else [c]

def containsPattern (value : String) : String :=
  String.ofList ('%' :: escapePattern value.toList ++ ['%'])

namespace Filter

def scalar (filter : Filter) : Except Sql.Fault Sql.Value :=
  match filter.values with
  | [] => .error (.missingValue filter.field)
  | value :: _ => .ok value.sqlValue

def pattern (filter : Filter) : Except Sql.Fault Sql.Value :=
  match filter.values with
  | [] => .error (.missingValue filter.field)
  | .text value :: _ => .ok (.string (some (containsPattern value)))
  | _ => .error (.patternOnNonText filter.field)

def conditionOn (filter : Filter) (column : Sql.Column) : Except Sql.Fault Sql.Condition :=
  match filter.operator with
  | .eq => filter.scalar.map (.compare column .eq)
  | .ne => filter.scalar.map (.compare column .ne)
  | .gt => filter.scalar.map (.compare column .gt)
  | .lt => filter.scalar.map (.compare column .lt)
  | .gte => filter.scalar.map (.compare column .gte)
  | .lte => filter.scalar.map (.compare column .lte)
  | .like => filter.pattern.map (.compare column .like)
  | .ilike => filter.pattern.map (.compare column .ilike)
  | .anyOf => .ok (.anyOf column (filter.values.map FieldValue.sqlValue))
  | .noneOf => .ok (.noneOf column (filter.values.map FieldValue.sqlValue))

def condition (filter : Filter) : Except Sql.Fault Sql.Condition :=
  (sourceColumn (storageColumn filter.field)).bind filter.conditionOn

end Filter

/-! ### Terms to order by -/

def SortField.term (sort : SortField) : Except Sql.Fault Sql.OrderTerm :=
  (sourceColumn (storageColumn sort.field)).map fun column => ⟨column, sort.direction⟩

structure OrderKey where
  column : String
  direction : Direction
deriving DecidableEq

def OrderKey.term (key : OrderKey) : Except Sql.Fault Sql.OrderTerm :=
  (sourceColumn key.column).map fun column => ⟨column, key.direction⟩

/-! ## Statements around a source

There are three: the page that a listing shows, the count of all that it could show, and the
look-up of one row by a key.  Filters and sorts outside the allow-list are passed over here
too, so parameters that never went through an intake get no further than a request does.
-/

/-- What a resource admits and how it is ordered when a request does not say. -/
structure Rules where
  allow : AllowList
  defaultOrder : List OrderKey

namespace Rules

def conditions (rules : Rules) (params : Params) : Except Sql.Fault (List Sql.Condition) :=
  (params.filters.filter rules.allow.admits).mapM Filter.condition

-- The terms of the default ordering, which must not be empty.
def defaultTerms (rules : Rules) : Except Sql.Fault (List Sql.OrderTerm) :=
  match rules.defaultOrder with
  | [] => .error .missingDefaultOrder
  | keys => keys.mapM OrderKey.term

-- The terms of the admitted sorts, and after them those of the default ordering.
def order (rules : Rules) (params : Params) : Except Sql.Fault (List Sql.OrderTerm) := do
  let chosen ← (params.sorts.filter fun sort => rules.allow.sortable sort.field).mapM
    SortField.term
  let rest ← rules.defaultTerms
  return chosen ++ rest

end Rules

def wrapped (source : Sql.Select) : Sql.Select :=
  .ofSelect source sourceName { projections := [.every sourceName] }

def pageOf (rules : Rules) (params : Params) (source : Sql.Select) :
    Except Sql.Fault Sql.Select := do
  let conditions ← rules.conditions params
  let order ← rules.order params
  return (((wrapped source).filteredBy conditions).orderedBy order).paged params.limit params.offset

def countOf (rules : Rules) (params : Params) (source : Sql.Select) :
    Except Sql.Fault Sql.Select := do
  let conditions ← rules.conditions params
  return .ofSelect source sourceName { projections := [.rowCount], conditions }

def keyedBy (column : String) (key : Int64) (source : Sql.Select) :
    Except Sql.Fault Sql.Select :=
  (sourceColumn column).map fun column =>
    (wrapped source).filteredBy [.compare column .eq (.bigInt (some key))]

end Daybook.Listing
