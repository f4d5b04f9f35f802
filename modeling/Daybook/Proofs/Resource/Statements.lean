import Daybook.Proofs.Listing.Statement
import Daybook.Resource.Catalogue
import Daybook.Sql.Statement

/-!
# The statements of a resource

What the queries of a resource give, and how a page and a look-up are laid out.
-/

namespace Daybook.Sql

variable {V : Type}

/-! ## What a query gives

The names of the columns of a query's rows, and what stands under each name for a row that the query
reads.
-/

namespace Projection

def labels (names : String → List String) : Projection → List String
  | every relation => names relation
  | plain column => [column.name]
  | named _ label => [label]
  | rowCount => ["count"]

/-- What a projection gives for a row.  The number of rows is not told by one row. -/
def cells (names : String → List String) (row : Column → V) : Projection → List (String × V)
  | every relation => (names relation).map fun name => (name, row ⟨some relation, name⟩)
  | plain column => [(column.name, row column)]
  | named column label => [(label, row column)]
  | rowCount => []

end Projection

namespace Select

def columnNames : Select → List String
  | ofTable _ clauses => clauses.projections.flatMap (Projection.labels fun _ => [])
  | ofSelect source name clauses =>
    clauses.projections.flatMap (Projection.labels fun relation =>
      if relation = name then source.columnNames else [])

def relationNames : Select → String → List String
  | ofTable _ _, _ => []
  | ofSelect source name _, relation => if relation = name then source.columnNames else []

def output (query : Select) (row : Column → V) : List (String × V) :=
  query.clauses.projections.flatMap (Projection.cells query.relationNames row)

end Select

-- A column of the relation that a query gives whole, ahead of its other columns.
theorem lookup_output {source : Select} {name column : String} {clauses : Clauses}
    {projections : List Projection} (row : Column → V)
    (hevery : clauses.projections = .every name :: projections)
    (hcolumn : column ∈ source.columnNames) :
    ((Select.ofSelect source name clauses).output row).lookup column =
      some (row ⟨some name, column⟩) := by
  rw [Select.output, Select.clauses, hevery, List.flatMap_cons, Projection.cells,
    Select.relationNames, if_pos rfl, List.lookup_append]
  have hfound : ∀ names : List String, column ∈ names →
      (names.map fun label => (label, row ⟨some name, label⟩)).lookup column =
        some (row ⟨some name, column⟩) := by
    intro names hmem
    induction names with
    | nil => simp at hmem
    | cons label names ih =>
      by_cases hlabel : column = label
      · simp [hlabel]
      · rw [List.map_cons, List.lookup_cons, beq_eq_false_iff_ne.mpr hlabel]
        exact ih ((List.mem_cons.mp hmem).resolve_left hlabel)
  rw [hfound _ hcolumn, Option.some_or]

end Daybook.Sql

namespace Daybook.Resource

open Listing

variable {resource : Resource}

/-! ## Pages and look-ups

A page and a look-up both join the children to parents that show the columns of the source, and both
order the joined rows by the terms of the parents before those of the children.
-/

/-- The joined statement is made just when its order is. -/
theorem joinedRows_eq_ok_iff {params : Params} {parents rows : Sql.Select} :
    resource.joinedRows params parents = .ok rows ↔
      ∃ order, resource.rules.order params = .ok order ∧
        rows = .ofSelect parents sourceName {
          projections := .every sourceName :: resource.childColumns
          joins := resource.childJoins
          order := order ++ resource.childOrder } := by
  unfold joinedRows
  simp only [bind_eq_ok_iff, pure_eq_ok_iff]
  constructor
  · rintro ⟨order, horder, rfl⟩
    exact ⟨order, horder, rfl⟩
  · rintro ⟨order, horder, rfl⟩
    exact ⟨order, horder, rfl⟩

/-- A listing has its two statements just when both are made. -/
theorem listing_eq_ok_iff {params : Params} {rows count : Sql.Select} :
    resource.listing params = .ok (rows, count) ↔
      ∃ page, pageOf resource.rules params resource.source = .ok page ∧
        resource.joinedRows params page = .ok rows ∧
        countOf resource.rules params resource.source = .ok count := by
  unfold listing
  simp only [bind_eq_ok_iff, pure_eq_ok_iff, Prod.mk.injEq]
  constructor
  · rintro ⟨page, hpage, _, hrows, _, hcount, rfl, rfl⟩
    exact ⟨page, hpage, hrows, hcount⟩
  · rintro ⟨page, hpage, hrows, hcount⟩
    exact ⟨page, hpage, rows, hrows, count, hcount, rfl, rfl⟩

/-- A look-up has its statement just when its key and its joins are made. -/
theorem detail_eq_ok_iff {id : Int64} {rows : Sql.Select} :
    resource.detail id = .ok rows ↔
      ∃ parent, keyedBy "id" id resource.source = .ok parent ∧
        resource.joinedRows {} parent = .ok rows := by
  unfold detail
  exact bind_eq_ok_iff

/-- A statement that documents are read from: the rows of a page, or those of one document. -/
inductive Fetches (resource : Resource) : Sql.Select → Prop
  | page {params : Params} {rows count : Sql.Select}
      (h : resource.listing params = .ok (rows, count)) : Fetches resource rows
  | document {id : Int64} {rows : Sql.Select}
      (h : resource.detail id = .ok rows) : Fetches resource rows

theorem columnNames_every (source : Sql.Select) (name : String) (clauses : Sql.Clauses)
    (hevery : clauses.projections = [.every name]) :
    (Sql.Select.ofSelect source name clauses).columnNames = source.columnNames := by
  rw [Sql.Select.columnNames, hevery, List.flatMap_singleton, Sql.Projection.labels, if_pos rfl]

/-- Whatever fetches rows joins children to a statement that shows the columns of the source. -/
theorem Fetches.exists_parents {rows : Sql.Select} (h : resource.Fetches rows) :
    ∃ params parents, parents.columnNames = resource.source.columnNames ∧
      rows = .ofSelect parents sourceName {
        projections := .every sourceName :: resource.childColumns
        joins := resource.childJoins
        order := resource.rules.terms params ++ resource.childOrder } := by
  cases h with
  | @page params rows count h =>
    obtain ⟨page, hpage, hrows, _⟩ := listing_eq_ok_iff.mp h
    obtain ⟨_, _, _, _, rfl⟩ := pageOf_eq_ok_iff.mp hpage
    obtain ⟨_, horder, rfl⟩ := joinedRows_eq_ok_iff.mp hrows
    rw [(Rules.order_eq_ok_iff.mp horder).2]
    exact ⟨params, _, columnNames_every _ _ _ rfl, rfl⟩
  | document h =>
    obtain ⟨parent, hparent, hrows⟩ := detail_eq_ok_iff.mp h
    obtain ⟨_, rfl⟩ := keyedBy_eq_ok_iff.mp hparent
    obtain ⟨_, horder, rfl⟩ := joinedRows_eq_ok_iff.mp hrows
    rw [(Rules.order_eq_ok_iff.mp horder).2]
    exact ⟨{}, _, columnNames_every _ _ _ rfl, rfl⟩

end Daybook.Resource
