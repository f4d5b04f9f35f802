import Daybook.Proofs.Resource.Statements
import Daybook.Proofs.Sql.Ordering
import Mathlib.Data.Int.Order.Basic
import Mathlib.Data.List.Lex

/-!
# One document for each parent

Every ordering of parents ends with their ids, and what orders the children comes after that.  So
whatever a request sorts by and however the database compares values, the joined rows of a parent
stand together and make one document.
-/

namespace Daybook.Resource

open Listing Document

def idColumn : Sql.Column := ⟨some sourceName, "id"⟩

/-! ## Ids of rows that were read -/

theorem cell_of_required {record : Record} {column : String} {id : Int64}
    (h : record.required column Cell.int64? = .ok id) : record.cell column = .integer id.toInt := by
  unfold Record.required at h
  cases hcell : record.cell column with
  | integer value =>
    rw [hcell, Cell.int64?] at h
    by_cases hfits : (Int64.ofInt value).toInt = value
    · rw [if_pos hfits] at h
      cases h
      rw [hfits]
    · rw [if_neg hfits] at h
      cases h
  | _ =>
    rw [hcell] at h
    cases h

/-- A reader that starts with a required id, and gives rows with that id as their key only. -/
theorem cell_of_read {Row : Type} {key : Row → Int64} {next : Int64 → Except ColumnFault Row}
    (hkey : ∀ id row, next id = .ok row → key row = id) {record : Record} {row : Row}
    (h : (record.required "id" Cell.int64? >>= next) = .ok row) :
    record.cell "id" = .integer (key row).toInt := by
  obtain ⟨id, hid, hnext⟩ := bind_eq_ok_iff.mp h
  rw [hkey id row hnext]
  exact cell_of_required hid

/-- The key of a row is the id that it was read from. -/
theorem Kind.cell_of_read (kind : Kind) {record : Record} {row : kind.resource.Row}
    (h : kind.resource.read record = .ok row) :
    record.cell "id" = .integer (kind.resource.shape.key row).toInt := by
  cases kind
  all_goals
    refine Resource.cell_of_read (fun id => ?_) h
    -- Whatever columns follow, the row is made with the id that came first.
    repeat refine forall_bind_eq_ok fun _ => ?_
    rintro row ⟨⟩
    rfl

/-! ## Parents that stand together -/

/-- The columns of a parent are told by its id. -/
def ParentsAgree {V : Type} (rows : List (Sql.Tuple V)) : Prop :=
  ∀ row ∈ rows, ∀ other ∈ rows, row idColumn = other idColumn →
    ∀ name, row ⟨some sourceName, name⟩ = other ⟨some sourceName, name⟩

theorem Kind.id_mem_columnNames (kind : Kind) : "id" ∈ kind.resource.source.columnNames := by
  cases kind <;> decide

/-- Every listing is sorted by id in the end. -/
theorem Kind.id_mem_defaultOrder (kind : Kind) :
    (⟨"id", .asc⟩ : OrderKey) ∈ kind.resource.rules.defaultOrder := by
  cases kind <;> decide

/-- In rows that the statement orders, those of one parent stand together. -/
theorem Kind.contiguous_of_ordered (kind : Kind) {statement : Sql.Select}
    (hfetches : kind.resource.Fetches statement) {V : Type} {collation : Sql.Collation V}
    (hantisymm : ∀ a b, collation.le idColumn a b → collation.le idColumn b a → a = b)
    {rows : List (Sql.Tuple V)} (hagree : ParentsAgree rows)
    (hordered : Sql.Ordered collation statement.clauses.order rows) :
    Grouping.Contiguous (rows.map fun row => row idColumn) := by
  obtain ⟨params, parents, _, rfl⟩ := hfetches.exists_parents
  have hid : OrderKey.orderTerm ⟨"id", .asc⟩ ∈ kind.resource.rules.terms params :=
    Rules.orderTerm_mem_terms kind.id_mem_defaultOrder
  refine Sql.contiguous_of_ordered hid hantisymm hordered ?_
  intro row hrow other hother hsame term hterm
  have hcolumn : term.column = ⟨some sourceName, term.column.name⟩ := by
    rw [← Rules.relation_of_mem_terms hterm]
  rw [hcolumn]
  exact hagree row hrow other hother hsame term.column.name

-- The ids of the rows that were read are those of the rows that the statement gave.
theorem Kind.map_key_of_read (kind : Kind) {statement : Sql.Select}
    (hfetches : kind.resource.Fetches statement) {table : List (Sql.Tuple Cell)}
    {rows : List kind.resource.Row}
    (hread : table.mapM (fun row => kind.resource.read ⟨statement.output row⟩) = .ok rows) :
    (rows.map kind.resource.shape.key).map (fun id => Cell.integer id.toInt) =
      table.map fun row => row idColumn := by
  obtain ⟨params, parents, hnames, rfl⟩ := hfetches.exists_parents
  have hid : "id" ∈ parents.columnNames := hnames ▸ kind.id_mem_columnNames
  rw [mapM_eq_ok_iff] at hread
  induction hread with
  | nil => rfl
  | @cons row decoded table rows hrow _ ih =>
    have hcell := kind.cell_of_read hrow
    rw [Record.cell, Sql.lookup_output row rfl hid, Option.getD_some] at hcell
    rw [List.map_cons, List.map_cons, List.map_cons, ih]
    exact congrArg (· :: _) hcell.symm

/-- However the joined rows of a page or a document are ordered by the statement, they fold into
exactly one document for each parent, made from all rows of that parent. -/
theorem Kind.documents_of_ordered_rows (kind : Kind) {statement : Sql.Select}
    (hfetches : kind.resource.Fetches statement) {collation : Sql.Collation Cell}
    (hantisymm : ∀ a b, collation.le idColumn a b → collation.le idColumn b a → a = b)
    {table sorted : List (Sql.Tuple Cell)} (hagree : ParentsAgree table)
    (hperm : sorted.Perm table)
    (hordered : Sql.Ordered collation statement.clauses.order sorted) :
    Grouping.Contiguous (sorted.map fun row => row idColumn) ∧
      ∀ rows, sorted.mapM (fun row => kind.resource.read ⟨statement.output row⟩) = .ok rows →
        ∃ (ids : List Int64) (documents : List kind.resource.Out),
          ids.Nodup ∧
          (∀ id, id ∈ ids ↔ Cell.integer id.toInt ∈ table.map fun row => row idColumn) ∧
          kind.resource.shape.Iterates rows documents ∧
          documents.map some = ids.map fun id =>
            kind.resource.shape.runDocument?
              (rows.filter fun row => kind.resource.shape.key row == id) := by
  have hsorted : ParentsAgree sorted := fun row hrow other hother =>
    hagree row (hperm.subset hrow) other (hperm.subset hother)
  have hcontiguous := kind.contiguous_of_ordered hfetches hantisymm hsorted hordered
  refine ⟨hcontiguous, fun rows hread => ?_⟩
  have hkeys := kind.map_key_of_read hfetches hread
  have hinjective : Function.Injective fun id : Int64 => Cell.integer id.toInt :=
    fun a b hab => Int64.toInt_inj.mp (Cell.integer.inj hab)
  rw [← hkeys] at hcontiguous
  obtain ⟨ids, documents, hnodup, hmem, hiterates, hdocuments⟩ :=
    Grouping.Shape.iterates_of_contiguous (hcontiguous.of_map hinjective)
  refine ⟨ids, documents, hnodup, fun id => ?_, hiterates, hdocuments⟩
  rw [hmem, ← (hperm.map _).mem_iff, ← hkeys, List.mem_map_of_injective hinjective]

/-! ## A page by name, backwards -/

def sortKey : Cell → List Int
  | .null => [0]
  | .boolean false => [1]
  | .boolean true => [2]
  | .integer value => [3, value]
  | .text value => 4 :: value.toList.map fun c => (c.toNat : Int)

theorem sortKey_injective : Function.Injective sortKey := by
  have hchars : Function.Injective fun c : Char => (c.toNat : Int) := fun c d hcd =>
    Char.toNat_inj.mp (Int.ofNat.inj hcd)
  intro a b h
  rcases a with _ | (_ | _) | x | s <;> rcases b with _ | (_ | _) | y | t <;>
    simp [sortKey] at h ⊢
  · exact h
  · exact String.toList_inj.mp (List.map_injective_iff.mpr hchars h)

def termTuple (id line : Int) : Sql.Tuple Cell := fun column =>
  if column.relation = some sourceName then
    match column.name with
    | "id" => .integer id
    | "name" => .text ("term " ++ toString id)
    | "created_at" => .text "2024-01-31"
    | _ => .null
  else if column.name = "id" then .integer line
  else .null

def termTuples : List (Sql.Tuple Cell) := [termTuple 2 4, termTuple 2 5, termTuple 1 3]

-- Rows of one term repeat its name.
theorem parentsAgree_termTuples : ParentsAgree termTuples := by
  have hshape : ∀ row ∈ termTuples, ∃ id line, row = termTuple id line := by
    simp [termTuples]
  intro row hrow other hother hid name
  obtain ⟨a, line, rfl⟩ := hshape row hrow
  obtain ⟨b, last, rfl⟩ := hshape other hother
  cases hid
  simp [termTuple]

/-- Terms by name, the last one first, which is not the order of their ids. -/
theorem documents_of_terms_by_name :
    ∃ statement count rows,
      paymentTerms.listing { sorts := [⟨"name", .desc⟩] } = .ok (statement, count) ∧
      termTuples.mapM (fun row => paymentTerms.read ⟨statement.output row⟩) = .ok rows ∧
      Grouping.Contiguous (termTuples.map fun row => row idColumn) ∧
      ∃ (ids : List Int64) (documents : List PaymentTerm),
        ids.Nodup ∧
        (∀ id, id ∈ ids ↔ Cell.integer id.toInt ∈ termTuples.map fun row => row idColumn) ∧
        paymentTerms.shape.Iterates rows documents ∧
        documents.map some = ids.map fun id =>
          paymentTerms.shape.runDocument?
            (rows.filter fun row => paymentTerms.shape.key row == id) := by
  obtain ⟨⟨statement, count⟩, hlisting⟩ : ∃ statements,
    paymentTerms.listing { sorts := [⟨"name", .desc⟩] } = .ok statements := ⟨_, rfl⟩
  have hordered : Sql.Ordered (.ofKey sortKey) statement.clauses.order termTuples := by
    cases hlisting
    decide +kernel
  obtain ⟨rows, hrows⟩ : ∃ rows,
      termTuples.mapM (fun row => paymentTerms.read ⟨statement.output row⟩) = .ok rows := by
    cases hlisting
    exact ⟨_, rfl⟩
  obtain ⟨hcontiguous, hdocuments⟩ := Kind.documents_of_ordered_rows .paymentTerm
    (.page hlisting) (fun a b hab hba => sortKey_injective (le_antisymm hab hba))
    parentsAgree_termTuples (List.Perm.refl termTuples) hordered
  exact ⟨statement, count, rows, hlisting, hrows, hcontiguous, hdocuments rows hrows⟩

end Daybook.Resource
