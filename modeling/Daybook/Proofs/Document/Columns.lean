import Daybook.Document.JournalEntry
import Daybook.Document.Quotation
import Daybook.Document.SalesOrder

/-!
# Children as columns

The columns in which a joined row holds a child, and the reading of a child off them.  A child that
was read off columns stands in these very columns.
-/

namespace Daybook.Document

def TermLine.columns (line : TermLine) : TermLineColumns where
  id := some line.id
  sequence := some line.sequence
  valueType := some line.valueType
  value := some line.value
  days := some line.days

theorem TermLine.of?_columns (line : TermLine) : TermLine.of? line.columns = some line := rfl

def JournalLine.columns (line : JournalLine) : JournalLineColumns where
  id := some line.id
  debit := some line.debit
  credit := some line.credit
  memo := line.memo
  accountId := some line.account.id
  accountCode := some line.account.code
  accountName := some line.account.name
  accountKind := some line.account.kind

theorem JournalLine.of?_columns (line : JournalLine) : JournalLine.of? line.columns = some line :=
  rfl

def LineItem.columns (item : LineItem) : ItemColumns where
  id := some item.id
  productName := some item.productName
  quantity := some item.quantity
  unitPrice := some item.unitPrice

/-- The item was read off the columns of a row, so its line total is that of its parts. -/
def LineItem.IsRead (item : LineItem) : Prop := ∃ columns, LineItem.of? columns = some item

/-- An item that was read has the columns that it was read from. -/
theorem LineItem.columns_eq {columns : ItemColumns} {item : LineItem}
    (h : LineItem.of? columns = some item) : columns = item.columns := by
  obtain ⟨id, productName, quantity, unitPrice⟩ := columns
  simp only [LineItem.of?, Option.bind_eq_bind, Option.bind_eq_some_iff, Option.pure_def,
    Option.some.injEq] at h
  obtain ⟨_, rfl, _, rfl, _, rfl, _, rfl, rfl⟩ := h
  rfl

/-- Items that were read are those that are read back from their own columns. -/
theorem LineItem.isRead_iff (item : LineItem) :
    item.IsRead ↔ LineItem.of? item.columns = some item := by
  refine ⟨?_, fun h => ⟨item.columns, h⟩⟩
  rintro ⟨columns, hcolumns⟩
  rw [← LineItem.columns_eq hcolumns, hcolumns]

instance (item : LineItem) : Decidable item.IsRead :=
  decidable_of_iff (LineItem.of? item.columns = some item) item.isRead_iff.symm

end Daybook.Document
