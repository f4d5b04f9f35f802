import Daybook.Proofs.Document.Columns
import Daybook.Proofs.Grouping.Children
import Daybook.Proofs.Grouping.Joined

/-!
# Joined rows back to documents

A document is joined with its children and the rows are folded again.  What comes back is the
document made of the same parts, each child counted once however often its rows repeat it.
-/

namespace Daybook.Document

open Grouping

/-! ## Children of one kind -/

structure Parts (Header Child : Type) where
  header : Header
  children : List Child

def Parts.rows {Header Child Columns Row : Type} (row : Header → Columns → Row)
    (columns : Child → Columns) (absent : Columns) (parts : Parts Header Child) : List Row :=
  (leftJoin columns absent parts.children).map (row parts.header)

/-- A shape whose rows hold a header and the columns of one child, and which keeps the children it
reads off neighbouring rows. -/
structure Joining {Row State Out : Type} (shape : Shape Row Int64 State Out)
    (Header Child Columns : Type) where
  row : Header → Columns → Row
  columns : Child → Columns
  absent : Columns
  read? : Columns → Option Child
  headerId : Header → Int64
  childId : Child → Int64
  state : Header → Children Int64 Child → State
  document : Header → List Child → Out
  read?_absent : read? absent = none
  key_row : ∀ header columns, shape.key (row header columns) = headerId header
  opening_row : ∀ header columns, shape.opening (row header columns) = state header {}
  absorb_row : ∀ header children columns,
    shape.absorb (state header children) (row header columns) =
      match read? columns with
      | some child => state header (children.upsertLast (some (childId child)) child).2
      | none => state header children
  close_state : ∀ header children,
    shape.close (state header children) = document header children.items

namespace Joining

variable {Row State Out : Type} {shape : Shape Row Int64 State Out}
  {Header Child Columns : Type} (joining : Joining shape Header Child Columns)

def rows (parts : Parts Header Child) : List Row :=
  parts.rows joining.row joining.columns joining.absent

/-- Rows of one header leave it alone and add the children that their columns are read as. -/
theorem foldl_absorb (header : Header) (children : Children Int64 Child)
    (joined : List Columns) :
    (joined.map (joining.row header)).foldl shape.absorb (joining.state header children) =
      joining.state header
        ((joined.filterMap joining.read?).foldl (Children.addAdjacent joining.childId)
          children) := by
  induction joined generalizing children with
  | nil => rfl
  | cons columns joined ih =>
    rw [List.map_cons, List.foldl_cons, joining.absorb_row]
    cases hread : joining.read? columns with
    | none => rw [List.filterMap_cons_none hread, ih]
    | some child =>
      rw [List.filterMap_cons_some hread, List.foldl_cons, ih]
      rfl

/-- The rows of one document are folded back into it. -/
theorem runDocument?_rows {parts : Parts Header Child}
    (hread : ∀ child ∈ parts.children, joining.read? (joining.columns child) = some child)
    (hchain : parts.children.IsChain fun a b => joining.childId a ≠ joining.childId b) :
    shape.runDocument? (joining.rows parts) =
      some (joining.document parts.header parts.children) := by
  have hne : joining.rows parts ≠ [] := by
    rw [rows, Parts.rows, Ne, List.map_eq_nil_iff]
    exact leftJoin_ne_nil _ _ _
  have hopening : ∀ row ∈ joining.rows parts,
      shape.opening row = joining.state parts.header {} := by
    intro row hrow
    obtain ⟨columns, _, rfl⟩ := List.mem_map.mp hrow
    exact joining.opening_row _ _
  rw [Shape.runDocument?_of_opening hne hopening, rows, Parts.rows, joining.foldl_absorb,
    filterMap_leftJoin _ _ _ joining.read?_absent hread, Children.foldl_addAdjacent _ _ hchain,
    joining.close_state, Children.items_ofItems]

-- Documents whose ids and whose children's ids differ from their neighbours' come back.
theorem iterates_rows {documents : List (Parts Header Child)}
    (hneighbours : documents.IsChain fun a b =>
      joining.headerId a.header ≠ joining.headerId b.header)
    (hread : ∀ parts ∈ documents, ∀ child ∈ parts.children,
      joining.read? (joining.columns child) = some child)
    (hchain : ∀ parts ∈ documents,
      parts.children.IsChain fun a b => joining.childId a ≠ joining.childId b) :
    shape.Iterates (documents.flatMap joining.rows)
      (documents.map fun parts => joining.document parts.header parts.children) := by
  refine Shape.iterates_flatMap (fun parts => joining.headerId parts.header) ?_ ?_ ?_
    hneighbours
  · intro parts hnil
    exact leftJoin_ne_nil _ _ _ (List.map_eq_nil_iff.mp hnil)
  · intro parts row hrow
    obtain ⟨columns, _, rfl⟩ := List.mem_map.mp hrow
    exact joining.key_row _ _
  · exact fun parts hparts => joining.runDocument?_rows (hread parts hparts) (hchain parts hparts)

end Joining

def paymentTermJoining :
    Joining paymentTermShape PaymentTermHeader TermLine TermLineColumns where
  row := PaymentTermRow.mk
  columns := TermLine.columns
  absent := {}
  read? := TermLine.of?
  headerId := PaymentTermHeader.id
  childId := TermLine.id
  state := PaymentTermState.mk
  document := PaymentTerm.of
  read?_absent := rfl
  key_row _ _ := rfl
  opening_row _ _ := rfl
  absorb_row header children columns := by
    cases hread : TermLine.of? columns <;> simp [paymentTermShape, PaymentTermState.absorb, hread]
  close_state _ _ := rfl

def journalEntryJoining :
    Joining journalEntryShape JournalEntryHeader JournalLine JournalLineColumns where
  row := JournalEntryRow.mk
  columns := JournalLine.columns
  absent := {}
  read? := JournalLine.of?
  headerId := JournalEntryHeader.id
  childId := JournalLine.id
  state := JournalEntryState.mk
  document := JournalEntry.of
  read?_absent := rfl
  key_row _ _ := rfl
  opening_row _ _ := rfl
  absorb_row header children columns := by
    cases hread : JournalLine.of? columns <;>
      simp [journalEntryShape, JournalEntryState.absorb, hread]
  close_state _ _ := rfl

def quotationJoining : Joining quotationShape QuotationHeader LineItem ItemColumns where
  row := QuotationRow.mk
  columns := LineItem.columns
  absent := {}
  read? := LineItem.of?
  headerId := QuotationHeader.id
  childId := LineItem.id
  state := QuotationState.mk
  document := Quotation.of
  read?_absent := rfl
  key_row _ _ := rfl
  opening_row _ _ := rfl
  absorb_row header children columns := by
    cases hread : LineItem.of? columns <;> simp [quotationShape, QuotationState.absorb, hread]
  close_state _ _ := rfl

/-! ## Items beside term lines -/

/-- The rows of a sales order: the columns of every term line beside those of every item, items
first. -/
def beside (header : SalesOrderHeader) (items : List ItemColumns) (lines : List TermLineColumns) :
    List SalesOrderRow :=
  items.flatMap fun item => lines.map fun line => ⟨header, item, line⟩

section Beside

variable (header : SalesOrderHeader) {items : List ItemColumns} {lines : List TermLineColumns}

theorem beside_ne_nil (hitems : items ≠ []) (hlines : lines ≠ []) :
    beside header items lines ≠ [] := by
  obtain ⟨item, items, rfl⟩ := List.exists_cons_of_ne_nil hitems
  obtain ⟨line, lines, rfl⟩ := List.exists_cons_of_ne_nil hlines
  exact List.cons_ne_nil _ _

variable {header} in
theorem header_of_mem_beside {row : SalesOrderRow} (h : row ∈ beside header items lines) :
    row.header = header := by
  obtain ⟨item, _, hrow⟩ := List.mem_flatMap.mp h
  obtain ⟨line, _, rfl⟩ := List.mem_map.mp hrow
  rfl

-- Every item stands in one row for each row of the term lines.
theorem filterMap_item_beside (items : List ItemColumns) (lines : List TermLineColumns) :
    (beside header items lines).filterMap (fun row => LineItem.of? row.item) =
      (items.filterMap LineItem.of?).flatMap (List.replicate lines.length) := by
  rw [beside, List.filterMap_flatMap, List.filterMap_eq_flatMap_toList, List.flatMap_assoc]
  congr 1
  funext columns
  rw [List.filterMap_map]
  cases hitem : LineItem.of? columns with
  | none => simp [hitem]
  | some item => simp [hitem, List.filterMap_eq_map', List.map_const']

-- The term lines stand whole beside every row of the items.
theorem filterMap_termLine_beside (items : List ItemColumns) (lines : List TermLineColumns) :
    (beside header items lines).filterMap (fun row => TermLine.of? row.termLine) =
      (List.replicate items.length (lines.filterMap TermLine.of?)).flatten := by
  rw [beside, List.filterMap_flatMap]
  simp only [List.filterMap_map, Function.comp_def]
  rw [List.flatMap_def, List.map_const']

-- Items and term lines are kept apart: each list is folded as if the other were not there.
theorem foldl_salesOrder (rows : List SalesOrderRow) (state : SalesOrderState) :
    rows.foldl SalesOrderState.absorb state =
      { state with
        items := (rows.filterMap fun row => LineItem.of? row.item).foldl
          (Children.addAdjacent LineItem.id) state.items
        termLines := (rows.filterMap fun row => TermLine.of? row.termLine).foldl
          (Children.addUnique TermLine.id) state.termLines } := by
  induction rows generalizing state with
  | nil => rfl
  | cons row rows ih =>
    rw [List.foldl_cons, ih, SalesOrderState.absorb]
    cases hitem : LineItem.of? row.item <;> cases hline : TermLine.of? row.termLine <;>
      simp [SalesOrderState.absorbItem, SalesOrderState.absorbTermLine, hitem, hline,
        Children.addAdjacent, Children.addUnique]

-- Of the term lines the first of each id are kept, however often all of them come back.
theorem runDocument?_beside (hitems : items ≠ []) (hlines : lines ≠ []) :
    salesOrderShape.runDocument? (beside header items lines) =
      some (.of header
        (((items.filterMap LineItem.of?).flatMap (List.replicate lines.length)).foldl
          (Children.addAdjacent LineItem.id) {}).items
        (Children.firsts TermLine.id [] (lines.filterMap TermLine.of?))) := by
  have hopening : ∀ row ∈ beside header items lines,
      salesOrderShape.opening row = { header := header } := by
    intro row hrow
    show ({ header := row.header } : SalesOrderState) = _
    rw [header_of_mem_beside hrow]
  rw [Shape.runDocument?_of_opening (beside_ne_nil header hitems hlines) hopening]
  show some (salesOrderShape.close ((beside header items lines).foldl SalesOrderState.absorb _)) = _
  rw [foldl_salesOrder, filterMap_item_beside, filterMap_termLine_beside,
    Children.foldl_addUnique_replicate TermLine.id (List.length_pos_iff.mpr hitems)]
  show some (SalesOrder.of header _ _) = _
  rw [Children.items_ofItems]

end Beside

structure SalesOrderParts where
  header : SalesOrderHeader
  items : List LineItem
  termLines : List TermLine

namespace SalesOrderParts

/-- The rows that a sales order is joined to: every term line beside every item, items first. -/
def rows (parts : SalesOrderParts) : List SalesOrderRow :=
  (leftJoin LineItem.columns {} parts.items).flatMap fun item =>
    (leftJoin TermLine.columns {} parts.termLines).map fun line => ⟨parts.header, item, line⟩

def salesOrder (parts : SalesOrderParts) : SalesOrder :=
  .of parts.header parts.items parts.termLines

theorem rows_eq_beside (parts : SalesOrderParts) :
    parts.rows = beside parts.header (leftJoin LineItem.columns {} parts.items)
      (leftJoin TermLine.columns {} parts.termLines) := rfl

theorem rows_ne_nil (parts : SalesOrderParts) : parts.rows ≠ [] :=
  beside_ne_nil parts.header (leftJoin_ne_nil _ _ _) (leftJoin_ne_nil _ _ _)

/-- The items were read off columns, neighbouring items differ in their ids, and no two term lines
have the same id. -/
structure WellFormed (parts : SalesOrderParts) : Prop where
  read : ∀ item ∈ parts.items, item.IsRead
  items : parts.items.IsChain fun a b => a.id ≠ b.id
  termLines : (parts.termLines.map TermLine.id).Nodup

instance (parts : SalesOrderParts) : Decidable parts.WellFormed :=
  decidable_of_iff
    ((∀ item ∈ parts.items, item.IsRead) ∧ (parts.items.IsChain fun a b => a.id ≠ b.id) ∧
      (parts.termLines.map TermLine.id).Nodup)
    ⟨fun ⟨hread, hitems, hlines⟩ => ⟨hread, hitems, hlines⟩,
      fun ⟨hread, hitems, hlines⟩ => ⟨hread, hitems, hlines⟩⟩

/-- The rows that pair each item with each line are folded back into the order. -/
theorem runDocument?_rows {parts : SalesOrderParts} (h : parts.WellFormed) :
    salesOrderShape.runDocument? parts.rows = some parts.salesOrder := by
  have hitems := filterMap_leftJoin LineItem.columns {} LineItem.of? rfl
    fun item hitem => item.isRead_iff.mp (h.read item hitem)
  have hlines := filterMap_leftJoin TermLine.columns {} TermLine.of? rfl
    fun line (_ : line ∈ parts.termLines) => line.of?_columns
  -- Each item is repeated at least once, since a left join has a row even without children.
  have hrepeated := Children.foldl_addAdjacent_flatMap LineItem.id
    (List.length_pos_iff.mpr (leftJoin_ne_nil TermLine.columns {} parts.termLines)) parts.items []
    h.items
  rw [rows_eq_beside, runDocument?_beside _ (leftJoin_ne_nil _ _ _) (leftJoin_ne_nil _ _ _),
    hitems, hlines, ← Children.ofItems_nil LineItem.id, hrepeated,
    Children.firsts_of_nodup TermLine.id h.termLines, Children.items_ofItems]
  rfl

end SalesOrderParts

def plainHeader (id : Int64) : SalesOrderHeader where
  id := id
  number := "SO"
  orderDate := ⟨2024, 1, 31, by decide⟩
  status := "open"
  discount := 0
  deliveryFee := 0
  customer := ⟨3, "Globex", none⟩
  quotation := ⟨40, "Q-40"⟩
  paymentTerm := none

end Daybook.Document
