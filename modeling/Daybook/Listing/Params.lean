import Daybook.Listing.Field
import Daybook.Sql.Statement
import Daybook.Sql.Value

/-!
# Listing parameters

What a resource lets its clients ask for, and what a request asks for once it has been read.
-/

namespace Daybook.Listing

/-! ## Allow-lists

A resource names the fields to filter and to sort by.  Of two entries for one field the first
counts.
-/

structure AllowedFilter where
  field : String
  operators : List Operator
  kind : FieldKind
deriving DecidableEq

def AllowedFilter.permits (allowed : AllowedFilter) (operator : Operator) : Bool :=
  allowed.operators.contains operator

structure AllowList where
  filters : List AllowedFilter
  sorts : List String
deriving DecidableEq

namespace AllowList

def filter? (allow : AllowList) (field : String) : Option AllowedFilter :=
  allow.filters.find? fun allowed => allowed.field == field

def permits (allow : AllowList) (field : String) (operator : Operator) : Bool :=
  (allow.filter? field).any fun allowed => allowed.permits operator

def sortable (allow : AllowList) (field : String) : Bool :=
  allow.sorts.contains field

/-- The filter that is found is the one for the field that was asked for. -/
theorem field_of_filter? {allow : AllowList} {field : String} {allowed : AllowedFilter}
    (h : allow.filter? field = some allowed) : allowed.field = field := by
  simpa using List.find?_some h

end AllowList

/-- The column that holds a field: the field's name with underscores for hyphens. -/
def storageColumn (field : String) : String :=
  String.ofList (field.toList.map fun c => if c = '-' then '_' else c)

/-! ## Parameters

A request asks for filters, for sorts and for a page.
-/

/-- A comparison of a field with values: one for scalar and pattern operators, any number for list
operators. -/
structure Filter where
  field : String
  operator : Operator
  values : List FieldValue
deriving DecidableEq

structure SortField where
  field : String
  direction : Direction
deriving DecidableEq

structure Params where
  filters : List Filter := []
  sorts : List SortField := []
  offset : Nat := 0
  limit : Nat := 10
deriving DecidableEq

/-- How long a page is when the request does not say, and at most. -/
structure PageLimits where
  standard : Nat := 10
  most : Nat := 100
deriving DecidableEq

/-- Limits under which every page that a request can ask for fits a 64-bit column. -/
structure PageLimits.Valid (limits : PageLimits) : Prop where
  one_le_standard : 1 ≤ limits.standard
  standard_le_most : limits.standard ≤ limits.most
  most_le : limits.most ≤ Sql.largestBigInt

namespace AllowList

def admits (allow : AllowList) (filter : Filter) : Bool :=
  allow.permits filter.field filter.operator

-- The parameters without the filters and sorts that the allow-list does not admit.
def restrict (allow : AllowList) (params : Params) : Params :=
  { params with
    filters := params.filters.filter allow.admits
    sorts := params.sorts.filter fun sort => allow.sortable sort.field }

end AllowList

end Daybook.Listing
