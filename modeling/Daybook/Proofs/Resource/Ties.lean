import Daybook.Proofs.Resource.Contiguity

/-!
# No ties among joined rows

A page orders its joined rows by what it orders the parents by, and then by the ids of the children.
No two joined rows agree on all ids, so whatever a database does with ties, there is one order that
it can give them in, and the documents come in the order of the page.
-/

namespace Daybook.Resource

open Listing
open Document (Cell)

namespace Kind

def childIds : Kind → List Sql.Column
  | paymentTerm => [column "payment_term_lines" "id"]
  | journalEntry => [column "journal_lines" "id"]
  | quotation => [column "quotation_items" "id"]
  | salesOrder => [column "sales_order_items" "id", column "payment_term_lines" "id"]

def rowIds (kind : Kind) : List Sql.Column := idColumn :: kind.childIds

/-- The joined rows are sorted by the ids of all children. -/
theorem childIds_ordered (kind : Kind) :
    ∀ column ∈ kind.childIds, ∃ term ∈ kind.resource.childOrder, term.column = column := by
  cases kind <;> decide

variable {kind : Kind} {params : Params} {rows count : Sql.Select}

/-- The order of a listing starts with that of its page. -/
theorem order_of_listing (h : kind.resource.listing params = .ok (rows, count)) :
    ∃ page, pageOf kind.resource.rules params kind.resource.source = .ok page ∧
      rows = .ofSelect page sourceName rows.clauses ∧
      page.clauses.order = kind.resource.rules.terms params ∧
      rows.clauses.order = page.clauses.order ++ kind.resource.childOrder := by
  obtain ⟨page, hpage, hrows, _⟩ := listing_eq_ok_iff.mp h
  obtain ⟨_, order, _, horder, rfl⟩ := pageOf_eq_ok_iff.mp hpage
  obtain ⟨_, horder', rfl⟩ := joinedRows_eq_ok_iff.mp hrows
  obtain ⟨_, rfl⟩ := Rules.order_eq_ok_iff.mp horder
  obtain ⟨_, rfl⟩ := Rules.order_eq_ok_iff.mp horder'
  exact ⟨_, hpage, rfl, rfl, rfl⟩

/-- Whatever tells two rows apart is sorted by. -/
theorem rowIds_ordered (h : kind.resource.listing params = .ok (rows, count)) :
    ∀ column ∈ kind.rowIds, ∃ term ∈ rows.clauses.order, term.column = column := by
  obtain ⟨page, _, _, hpage, horder⟩ := order_of_listing h
  rw [horder, hpage]
  intro column hcolumn
  rcases List.mem_cons.mp hcolumn with rfl | hchild
  · exact ⟨_, List.mem_append_left _ (Rules.orderTerm_mem_terms kind.id_mem_defaultOrder), rfl⟩
  · obtain ⟨term, hterm, hname⟩ := kind.childIds_ordered column hchild
    exact ⟨term, List.mem_append_right _ hterm, hname⟩

/-- The ids of a joined row tell it from the others, and the id of a parent tells its columns.  A
database does not take different ids for equal, NULL among them. -/
structure TellsApart (kind : Kind) (collation : Sql.Collation Cell)
    (table : List (Sql.Tuple Cell)) : Prop where
  antisymm : ∀ column ∈ kind.rowIds, ∀ a b,
    collation.le column a b → collation.le column b a → a = b
  parents : ParentsAgree table
  distinct : (table.map fun row => kind.rowIds.map row).Nodup

/-- The documents of the rows, with the ids of their parents, come in the order of the terms: the
parents have rows among those that were read, one each, which are in that order. -/
structure InOrder (kind : Kind) (collation : Sql.Collation Cell) (terms : List Sql.OrderTerm)
    (table : List (Sql.Tuple Cell)) (decoded : List kind.resource.Row) (ids : List Int64)
    (documents : List kind.resource.Out) : Prop where
  iterates : kind.resource.shape.Iterates decoded documents
  documents_eq : documents.map some = ids.map fun id =>
    kind.resource.shape.runDocument? (decoded.filter fun row => kind.resource.shape.key row == id)
  ordered : ∃ parents, parents.Sublist table ∧
    parents.map (fun row => row idColumn) = ids.map (fun id => .integer id.toInt) ∧
    Sql.Ordered collation terms parents

theorem exists_inOrder (h : kind.resource.listing params = .ok (rows, count))
    {terms : List Sql.OrderTerm} (hterms : rows.clauses.order = terms ++ kind.resource.childOrder)
    {collation : Sql.Collation Cell} {sorted : List (Sql.Tuple Cell)}
    (hantisymm : ∀ a b, collation.le idColumn a b → collation.le idColumn b a → a = b)
    (hagree : ParentsAgree sorted) (hordered : Sql.Ordered collation rows.clauses.order sorted)
    {decoded : List kind.resource.Row}
    (hread : sorted.mapM (fun row => kind.resource.read ⟨rows.output row⟩) = .ok decoded) :
    ∃ ids documents, kind.InOrder collation terms sorted decoded ids documents := by
  have hcontiguous := kind.contiguous_of_ordered (.page h) hantisymm hagree hordered
  have hkeys := kind.map_key_of_read (.page h) hread
  have hinjective : Function.Injective fun id : Int64 => Cell.integer id.toInt :=
    fun a b hab => Int64.toInt_inj.mp (Cell.integer.inj hab)
  rw [← hkeys] at hcontiguous
  obtain ⟨ids, _, _, hsublist, hruns⟩ :=
    Grouping.Shape.exists_runs_of_contiguous (hcontiguous.of_map hinjective)
  -- The ids stand in the order of the rows, so a part of the rows has just these ids.
  have hcells := hsublist.map fun id : Int64 => Cell.integer id.toInt
  rw [hkeys] at hcells
  obtain ⟨parents, hparents, hids⟩ := List.sublist_map_iff.mp hcells
  rw [hterms] at hordered
  refine ⟨ids, kind.resource.shape.group decoded, kind.resource.shape.iterates_group _, ?_,
    parents, hparents, hids.symm, List.Pairwise.sublist hparents hordered.of_append⟩
  rw [Grouping.Shape.group_map_some, hruns, List.map_map]
  rfl

/-- A page orders its joined rows by its own terms and then by those of the children.  Where ids
tell the joined rows apart, there is only one order that they can come in, and so one list of
documents, with the parents in the order of the page. -/
theorem ordered_rows_unique (h : kind.resource.listing params = .ok (rows, count)) :
    ∃ page, pageOf kind.resource.rules params kind.resource.source = .ok page ∧
      rows = .ofSelect page sourceName rows.clauses ∧
      rows.clauses.order = page.clauses.order ++ kind.resource.childOrder ∧
      ∀ {collation table sorted others}, kind.TellsApart collation table →
        sorted.Perm table → others.Perm table →
        Sql.Ordered collation rows.clauses.order sorted →
        Sql.Ordered collation rows.clauses.order others →
        sorted = others ∧
        ∀ decoded, sorted.mapM (fun row => kind.resource.read ⟨rows.output row⟩) = .ok decoded →
          others.mapM (fun row => kind.resource.read ⟨rows.output row⟩) = .ok decoded ∧
          ∃ ids documents,
            kind.InOrder collation page.clauses.order sorted decoded ids documents := by
  obtain ⟨page, hpage, hrows, _, horder⟩ := order_of_listing h
  refine ⟨page, hpage, hrows, horder, ?_⟩
  intro collation table sorted others hapart hperm hperm' hordered hordered'
  have hsame : sorted = others := Sql.eq_of_ordered (rowIds_ordered h) hapart.antisymm
    hapart.distinct hperm hperm' hordered hordered'
  have hagree : ParentsAgree sorted := fun row hrow other hother =>
    hapart.parents row (hperm.subset hrow) other (hperm.subset hother)
  refine ⟨hsame, fun decoded hread => ⟨hsame ▸ hread, ?_⟩⟩
  exact exists_inOrder h horder (hapart.antisymm idColumn List.mem_cons_self) hagree hordered hread

/-- Payment terms by name, backwards, from rows that stood the other way round. -/
theorem ordered_terms_unique :
    ∃ page rows count decoded,
      paymentTerms.listing { sorts := [⟨"name", .desc⟩] } = .ok (rows, count) ∧
      paymentTerm.TellsApart (.ofKey sortKey) termTuples.reverse ∧
      termTuples.mapM (fun row => paymentTerms.read ⟨rows.output row⟩) = .ok decoded ∧
      (∀ others, others.Perm termTuples.reverse →
        Sql.Ordered (.ofKey sortKey) rows.clauses.order others → termTuples = others) ∧
      ∃ ids documents, paymentTerm.InOrder (.ofKey sortKey) (Sql.Select.clauses page).order
        termTuples decoded ids documents := by
  obtain ⟨⟨rows, count⟩, hlisting⟩ : ∃ statements,
    paymentTerm.resource.listing { sorts := [⟨"name", .desc⟩] } = .ok statements := ⟨_, rfl⟩
  have hordered : Sql.Ordered (.ofKey sortKey) rows.clauses.order termTuples := by
    cases hlisting
    decide +kernel
  obtain ⟨decoded, hread⟩ : ∃ decoded,
      termTuples.mapM (fun row => paymentTerms.read ⟨rows.output row⟩) = .ok decoded := by
    cases hlisting
    exact ⟨_, rfl⟩
  have hperm : termTuples.Perm termTuples.reverse := (List.reverse_perm _).symm
  have hapart : paymentTerm.TellsApart (.ofKey sortKey) termTuples.reverse := {
    antisymm := fun _ _ a b hab hba => sortKey_injective (le_antisymm hab hba)
    parents := fun row hrow other hother => parentsAgree_termTuples row (hperm.symm.subset hrow)
      other (hperm.symm.subset hother)
    distinct := by decide }
  obtain ⟨page, _, _, _, hunique⟩ := ordered_rows_unique hlisting
  have hdocuments := (hunique hapart hperm hperm hordered hordered).2 decoded hread
  exact ⟨page, rows, count, decoded, hlisting, hapart, hread,
    fun others hperm' hordered' => (hunique hapart hperm hperm' hordered hordered').1,
    hdocuments.2⟩

end Kind

end Daybook.Resource
