import Daybook.Amount
import Daybook.Document.Record
import Daybook.Json.Value

/-!
# Line items and totals

What quotations and sales orders have in common: a customer, product lines and the totals over them.
-/

namespace Daybook.Document

structure Customer where
  id : Int64
  name : String
  email : Option String
deriving DecidableEq

structure PaymentTermRef where
  id : Int64
  name : String
deriving DecidableEq

-- Present only when the optional join found a payment term.
def PaymentTermRef.of? (id : Option Int64) (name : Option String) : Option PaymentTermRef := do
  return { id := ← id, name := ← name }

structure LineItem where
  id : Int64
  productName : String
  quantity : Int32
  unitPrice : Amount
  lineTotal : Amount
deriving DecidableEq

structure ItemColumns where
  id : Option Int64 := none
  productName : Option String := none
  quantity : Option Int32 := none
  unitPrice : Option Amount := none
deriving DecidableEq

def LineItem.of? (columns : ItemColumns) : Option LineItem := do
  let quantity ← columns.quantity
  let unitPrice ← columns.unitPrice
  return {
    id := ← columns.id
    productName := ← columns.productName
    quantity
    unitPrice
    lineTotal := Amount.times quantity unitPrice }

structure Totals where
  subtotal : Amount
  discount : Amount
  deliveryFee : Amount
  total : Amount
deriving DecidableEq

/-- The discount is taken off the sum of the lines and the delivery fee put on. -/
def Totals.of (items : List LineItem) (discount deliveryFee : Amount) : Totals :=
  let subtotal := Amount.sum (items.map LineItem.lineTotal)
  { subtotal, discount, deliveryFee, total := (subtotal.sub discount).add deliveryFee }

/-! ## Reading from records -/

def Customer.read (record : Record) : Except ColumnFault Customer := do
  return {
    id := ← record.required "customer_id" Cell.int64?
    name := ← record.required "customer_name" Cell.text?
    email := ← record.optional "customer_email" Cell.text? }

def PaymentTermRef.read (record : Record) : Except ColumnFault (Option PaymentTermRef) := do
  let id ← record.optional "payment_term_id" Cell.int64?
  let name ← record.optional "payment_term_name" Cell.text?
  return PaymentTermRef.of? id name

def ItemColumns.read (record : Record) : Except ColumnFault ItemColumns := do
  return {
    id := ← record.optional "item_id" Cell.int64?
    productName := ← record.optional "item_product_name" Cell.text?
    quantity := ← record.optional "item_quantity" Cell.int32?
    unitPrice := ← record.optional "item_unit_price" Cell.int64? }

/-! ## Answers -/

def Customer.json (customer : Customer) : Json :=
  .object [
    ("id", .number customer.id.toInt),
    ("name", .string customer.name),
    ("email", .ofOption .string customer.email)]

def PaymentTermRef.json (term : PaymentTermRef) : Json :=
  .object [("id", .number term.id.toInt), ("name", .string term.name)]

def LineItem.json (item : LineItem) : Json :=
  .object [
    ("id", .number item.id.toInt),
    ("product_name", .string item.productName),
    ("quantity", .number item.quantity.toInt),
    ("unit_price", .number item.unitPrice.toInt),
    ("line_total", .number item.lineTotal.toInt)]

def Totals.members (totals : Totals) : List (String × Json) :=
  [("subtotal", .number totals.subtotal.toInt),
   ("discount", .number totals.discount.toInt),
   ("delivery_fee", .number totals.deliveryFee.toInt),
   ("total", .number totals.total.toInt)]

end Daybook.Document
