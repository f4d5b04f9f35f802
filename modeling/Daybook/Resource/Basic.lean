import Daybook.Document.Record
import Daybook.Grouping.Shape
import Daybook.Json.Value
import Daybook.Listing.Statement

/-!
# Resources

A resource is a kind of document that can be listed and looked up: what requests may filter and sort
by, the query of its parent rows, how children are joined to a page of parents, and how the joined
rows fold into documents.
-/

namespace Daybook

open Listing

structure Resource where
  Row : Type
  State : Type
  Out : Type
  name : String
  -- What requests may ask for, and the order of the parents.
  rules : Rules
  -- The parents with what is joined one to one.
  source : Sql.Select
  childColumns : List Sql.Projection
  -- How the children are joined to the parents.
  childJoins : List Sql.Join
  -- The order of the children of one parent.
  childOrder : List Sql.OrderTerm
  shape : Grouping.Shape Row Int64 State Out
  read : Document.Record → Except Document.ColumnFault Row
  json : Out → Json

namespace Resource

def expand (resource : Resource) (parents : Sql.Select) : Sql.Select :=
  .ofSelect parents sourceName
    { projections := .every sourceName :: resource.childColumns
      joins := resource.childJoins }

def joinedRows (resource : Resource) (params : Params) (parents : Sql.Select) :
    Except Sql.Fault Sql.Select := do
  let order ← resource.rules.order params
  return ((resource.expand parents).orderedBy order).orderedBy resource.childOrder

/-- The statements of a listing: the joined rows of a page, and the count. -/
def listing (resource : Resource) (params : Params) :
    Except Sql.Fault (Sql.Select × Sql.Select) := do
  let page ← pageOf resource.rules params resource.source
  let rows ← resource.joinedRows params page
  let count ← countOf resource.rules params resource.source
  return (rows, count)

def detail (resource : Resource) (id : Int64) : Except Sql.Fault Sql.Select := do
  let parent ← keyedBy "id" id resource.source
  resource.joinedRows {} parent

end Resource

/-! ## Short forms for the definitions of resources -/

namespace Resource

def column (table name : String) : Sql.Column := ⟨some table, name⟩

def named (table name label : String) : Sql.Projection := .named (column table name) label

def plainColumns (names : List String) : List Sql.Projection :=
  names.map fun name => .plain ⟨none, name⟩

def columnsOf (table : String) (names : List String) : List Sql.Projection :=
  names.map fun name => .plain (column table name)

def ascending (table name : String) : Sql.OrderTerm := ⟨column table name, .asc⟩

end Resource

end Daybook
