import Daybook.Calendar
import Daybook.Text.Numeral

/-!
# Filterable fields

The operators of a filter token, and how the text that a request gives for a field is read.
-/

namespace Daybook.Listing

/-! ## Operators

Each of the ten has the name that requests use for it.
-/

inductive Operator
  | eq
  | ne
  | gt
  | lt
  | gte
  | lte
  -- Holds where the value occurs in the column, letter case included.
  | like
  -- Holds where the value occurs in the column, whatever its letter case.
  | ilike
  | anyOf
  | noneOf
deriving DecidableEq, Repr

namespace Operator

def all : List Operator :=
  [eq, ne, gt, lt, gte, lte, like, ilike, anyOf, noneOf]

def wireName : Operator → String
  | eq => "eq"
  | ne => "ne"
  | gt => "gt"
  | lt => "lt"
  | gte => "gte"
  | lte => "lte"
  | like => "like"
  | ilike => "ilike"
  | anyOf => "in"
  | noneOf => "nin"

/-- The operator of a name; letter case counts. -/
def ofWireName? (name : String) : Option Operator :=
  all.find? fun operator => operator.wireName == name

def isList : Operator → Bool
  | anyOf | noneOf => true
  | _ => false

def isPattern : Operator → Bool
  | like | ilike => true
  | _ => false

/-- An operator is recognised under the name that it has in a query. -/
theorem ofWireName?_wireName (operator : Operator) :
    ofWireName? operator.wireName = some operator := by
  cases operator <;> decide

/-- An operator that is recognised is the one of that name. -/
theorem wireName_of_ofWireName? {name : String} {operator : Operator}
    (h : ofWireName? name = some operator) : operator.wireName = name := by
  simpa using List.find?_some h

end Operator

/-! ## Field kinds and values

A filterable field is of one of four kinds, and the text that a request gives for it is read by the
rule of that kind.  A text is taken as it stands, the other kinds ignore blanks around the value.
-/

inductive FieldKind
  | text
  | integer
  | boolean
  | date
deriving DecidableEq, Repr

inductive FieldValue
  | text (value : String)
  | integer (value : Int64)
  | boolean (value : Bool)
  | date (value : Date)
deriving DecidableEq

def FieldValue.kind : FieldValue → FieldKind
  | .text _ => .text
  | .integer _ => .integer
  | .boolean _ => .boolean
  | .date _ => .date

def readBool? (s : List Char) : Option Bool :=
  let word := String.ofList (s.map Char.toLower)
  if word = "true" ∨ word = "1" then some true
  else if word = "false" ∨ word = "0" then some false
  else none

namespace FieldKind

/-- Reads one value.  A text must be free of NUL, which no text column can hold. -/
def read? (kind : FieldKind) (raw : List Char) : Option FieldValue :=
  match kind with
  | text => if '\x00' ∈ raw then none else some (.text (String.ofList raw))
  | integer => ((Text.readInt64 (Text.trim raw)).toOption).map .integer
  | boolean => (readBool? (Text.trim raw)).map .boolean
  | date => (Date.read? (Text.trim raw)).map .date

/-- The items of a list value: what stands between commas, trimmed, less the empty ones.  One pair
of parentheses around the whole list is dropped. -/
def listItems (raw : List Char) : List (List Char) :=
  let trimmed := Text.trim raw
  let inner := ((Text.after? ['('] trimmed).bind (Text.beforeLast? ')')).getD trimmed
  ((Text.pieces ',' inner).map Text.trim).filter (· ≠ [])

/-- Reads the values of a filter: all items of a nonempty list, or the one value. -/
def readAll? (kind : FieldKind) (operator : Operator) (raw : List Char) :
    Option (List FieldValue) :=
  if operator.isList then
    match listItems raw with
    | [] => none
    | items => items.mapM kind.read?
  else (kind.read? raw).map fun value => [value]

-- A value that was read is of the kind it was read for.
theorem kind_of_read? {kind : FieldKind} {raw : List Char} {value : FieldValue}
    (h : kind.read? raw = some value) : value.kind = kind := by
  cases kind <;> simp only [read?, Option.map_eq_some_iff, Option.ite_none_left_eq_some] at h
  · obtain ⟨_, h⟩ := h
    cases h
    rfl
  all_goals
    obtain ⟨_, _, rfl⟩ := h
    rfl

end FieldKind

end Daybook.Listing
