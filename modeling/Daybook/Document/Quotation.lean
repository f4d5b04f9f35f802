import Daybook.Document.LineItem
import Daybook.Grouping.Children
import Daybook.Grouping.Shape

/-!
# Quotations

A quotation offers product lines to a customer, with totals and perhaps a payment term.
-/

namespace Daybook.Document

open Grouping

structure QuotationHeader where
  id : Int64
  number : String
  quotationDate : Date
  validUntil : Option Date
  status : String
  discount : Amount
  deliveryFee : Amount
  customer : Customer
  paymentTerm : Option PaymentTermRef
deriving DecidableEq

structure QuotationRow where
  header : QuotationHeader
  item : ItemColumns := {}
deriving DecidableEq

structure Quotation where
  header : QuotationHeader
  items : List LineItem
  totals : Totals
deriving DecidableEq

def Quotation.of (header : QuotationHeader) (items : List LineItem) : Quotation where
  header := header
  items := items
  totals := .of items header.discount header.deliveryFee

structure QuotationState where
  header : QuotationHeader
  items : Children Int64 LineItem := {}

def QuotationState.absorb (state : QuotationState) (row : QuotationRow) : QuotationState :=
  match LineItem.of? row.item with
  | some item => { state with items := (state.items.upsertLast (some item.id) item).2 }
  | none => state

def quotationShape : Shape QuotationRow Int64 QuotationState Quotation where
  key row := row.header.id
  opening row := { header := row.header }
  absorb := QuotationState.absorb
  close state := .of state.header state.items.items

def QuotationRow.read (record : Record) : Except ColumnFault QuotationRow := do
  return {
    header := {
      id := ← record.required "id" Cell.int64?
      number := ← record.required "number" Cell.text?
      quotationDate := ← record.required "quotation_date" Cell.date?
      validUntil := ← record.optional "valid_until" Cell.date?
      status := ← record.required "status" Cell.text?
      discount := ← record.required "discount" Cell.int64?
      deliveryFee := ← record.required "delivery_fee" Cell.int64?
      customer := ← Customer.read record
      paymentTerm := ← PaymentTermRef.read record }
    item := ← ItemColumns.read record }

def Quotation.json (quotation : Quotation) : Json :=
  let header := quotation.header
  .object ([
    ("id", .number header.id.toInt),
    ("number", .string header.number),
    ("quotation_date", .string (toString header.quotationDate)),
    ("valid_until", .ofOption (fun date => .string (toString date)) header.validUntil),
    ("status", .string header.status),
    ("customer", header.customer.json),
    ("payment_term", .ofOption PaymentTermRef.json header.paymentTerm),
    ("items", .array (quotation.items.map LineItem.json))] ++ quotation.totals.members)

end Daybook.Document
