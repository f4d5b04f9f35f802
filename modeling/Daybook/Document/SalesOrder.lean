import Daybook.Calendar
import Daybook.Document.LineItem
import Daybook.Document.PaymentTerm

/-!
# Sales orders and their schedules

A sales order has items and, through its quotation, the lines of a payment term, which split its
total into amounts due.
-/

namespace Daybook.Document

/-! ## Schedules

How the lines of a payment term split the total of an order into amounts due.  A percent line takes
its share rounded toward zero, a fixed line its value, and a balance line what the lines before it
left; without a balance line the remainder stays open.
-/

structure Installment where
  sequence : Int32
  dueDate : Date
  amount : Amount
deriving DecidableEq

namespace TermLine

/-- Lines come in the order of their sequence numbers, and of their ids where those are equal. -/
def comesBefore (a b : TermLine) : Bool :=
  a.sequence < b.sequence || (a.sequence == b.sequence && a.id ≤ b.id)

def inOrder (lines : List TermLine) : List TermLine :=
  lines.mergeSort comesBefore

-- A share of a total in basis points, rounded toward zero.
def share (total : Amount) (basisPoints : Amount) : Amount :=
  Amount.clamp (Int.tdiv (total.toInt * basisPoints.toInt) 10000)

-- What a line takes of a total of which `allocated` is taken already.
def amount (line : TermLine) (total allocated : Amount) : Amount :=
  match line.valueType with
  | .percent => share total line.value
  | .fixed => line.value
  | .balance => total.sub allocated

/-- The day that lies `days` after an order; the order's own day where there is no such day. -/
def dueDate (orderDate : Date) (days : Int32) : Date :=
  if days < 0 then orderDate else (orderDate.addDays? days.toInt.toNat).getD orderDate

def installmentsFrom (orderDate : Date) (total allocated : Amount) :
    List TermLine → List Installment
  | [] => []
  | line :: lines =>
    let amount := line.amount total allocated
    ⟨line.sequence, dueDate orderDate line.days, amount⟩ ::
      installmentsFrom orderDate total (allocated.add amount) lines

end TermLine

def installments (orderDate : Date) (total : Amount) (lines : List TermLine) : List Installment :=
  TermLine.installmentsFrom orderDate total 0 (TermLine.inOrder lines)

def Installment.json (installment : Installment) : Json :=
  .object [
    ("sequence", .number installment.sequence.toInt),
    ("due_date", .string (toString installment.dueDate)),
    ("amount", .number installment.amount.toInt)]


open Grouping

/-! ## Sales orders

Joined rows hold every pair of an item and a term line.  They are ordered by items first, so an
item comes back only directly after itself, and a term line once for each item.
-/

structure QuotationRef where
  id : Int64
  number : String
deriving DecidableEq

structure SalesOrderHeader where
  id : Int64
  number : String
  orderDate : Date
  status : String
  discount : Amount
  deliveryFee : Amount
  customer : Customer
  quotation : QuotationRef
  paymentTerm : Option PaymentTermRef
deriving DecidableEq

/-- A sales order joined with at most one of its items and one of its term lines. -/
structure SalesOrderRow where
  header : SalesOrderHeader
  item : ItemColumns := {}
  termLine : TermLineColumns := {}
deriving DecidableEq

structure SalesOrder where
  header : SalesOrderHeader
  items : List LineItem
  termLines : List TermLine
  totals : Totals
  schedule : List Installment
deriving DecidableEq

def SalesOrder.of (header : SalesOrderHeader) (items : List LineItem)
    (termLines : List TermLine) : SalesOrder :=
  let totals := Totals.of items header.discount header.deliveryFee
  { header, items, termLines, totals,
    schedule := installments header.orderDate totals.total termLines }

structure SalesOrderState where
  header : SalesOrderHeader
  items : Children Int64 LineItem := {}
  termLines : Children Int64 TermLine := {}

namespace SalesOrderState

def absorbItem (state : SalesOrderState) (row : SalesOrderRow) : SalesOrderState :=
  match LineItem.of? row.item with
  | some item => { state with items := (state.items.upsertLast (some item.id) item).2 }
  | none => state

def absorbTermLine (state : SalesOrderState) (row : SalesOrderRow) : SalesOrderState :=
  match TermLine.of? row.termLine with
  | some line => { state with termLines := (state.termLines.insertUnique (some line.id) line).2 }
  | none => state

def absorb (state : SalesOrderState) (row : SalesOrderRow) : SalesOrderState :=
  (state.absorbItem row).absorbTermLine row

end SalesOrderState

def salesOrderShape : Shape SalesOrderRow Int64 SalesOrderState SalesOrder where
  key row := row.header.id
  opening row := { header := row.header }
  absorb := SalesOrderState.absorb
  close state := .of state.header state.items.items state.termLines.items

def SalesOrderRow.read (record : Record) : Except ColumnFault SalesOrderRow := do
  return {
    header := {
      id := ← record.required "id" Cell.int64?
      number := ← record.required "number" Cell.text?
      orderDate := ← record.required "order_date" Cell.date?
      status := ← record.required "status" Cell.text?
      discount := ← record.required "discount" Cell.int64?
      deliveryFee := ← record.required "delivery_fee" Cell.int64?
      customer := ← Customer.read record
      quotation := {
        id := ← record.required "quotation_id" Cell.int64?
        number := ← record.required "quotation_number" Cell.text? }
      paymentTerm := ← PaymentTermRef.read record }
    item := ← ItemColumns.read record
    termLine := ← TermLineColumns.read "term_line_" record }

/-! ### Answers -/

def QuotationRef.json (quotation : QuotationRef) : Json :=
  .object [("id", .number quotation.id.toInt), ("number", .string quotation.number)]

def SalesOrder.json (order : SalesOrder) : Json :=
  let header := order.header
  .object ([
    ("id", .number header.id.toInt),
    ("number", .string header.number),
    ("order_date", .string (toString header.orderDate)),
    ("status", .string header.status),
    ("customer", header.customer.json),
    ("quotation", header.quotation.json),
    ("payment_term", .ofOption PaymentTermRef.json header.paymentTerm),
    ("items", .array (order.items.map LineItem.json)),
    ("payment_term_lines", .array (order.termLines.map TermLine.json))] ++
    order.totals.members ++
    [("schedule", .array (order.schedule.map Installment.json))])

end Daybook.Document
