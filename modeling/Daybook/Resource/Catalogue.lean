import Daybook.Document.JournalEntry
import Daybook.Document.PaymentTerm
import Daybook.Document.Quotation
import Daybook.Document.SalesOrder
import Daybook.Resource.Basic

/-!
# The catalogue

Every kind of document that is served, and the resource behind it.
-/

namespace Daybook.Resource

open Listing Document

/-! ## Payment terms -/

def paymentTermRules : Rules where
  allow := {
    filters := [
      ⟨"id", [.eq, .ne, .gt, .lt, .gte, .lte, .anyOf, .noneOf], .integer⟩,
      ⟨"name", [.eq, .ne, .like, .ilike, .anyOf, .noneOf], .text⟩,
      ⟨"description", [.like, .ilike], .text⟩,
      ⟨"created-at", [.eq, .gt, .lt, .gte, .lte], .date⟩]
    sorts := ["id", "name", "created-at"] }
  defaultOrder := [⟨"id", .asc⟩]

def paymentTerms : Resource where
  Row := PaymentTermRow
  State := PaymentTermState
  Out := PaymentTerm
  name := "payment term"
  rules := paymentTermRules
  source := .ofTable "payment_terms"
    { projections := plainColumns ["id", "name", "description", "created_at"] }
  childColumns := [
    named "payment_term_lines" "id" "line_id",
    named "payment_term_lines" "sequence" "line_sequence",
    named "payment_term_lines" "value_type" "line_value_type",
    named "payment_term_lines" "value" "line_value",
    named "payment_term_lines" "days" "line_days"]
  childJoins := [
    ⟨.left, "payment_term_lines", column "payment_term_lines" "payment_term_id",
      column sourceName "id"⟩]
  childOrder := [
    ascending "payment_term_lines" "sequence",
    ascending "payment_term_lines" "id"]
  shape := paymentTermShape
  read := PaymentTermRow.read
  json := PaymentTerm.json

/-! ## Journal entries

Each line has exactly one account, so the join of the accounts adds no rows.
-/

def journalEntryRules : Rules where
  allow := {
    filters := [
      ⟨"id", [.eq, .anyOf, .noneOf], .integer⟩,
      ⟨"number", [.eq, .ne, .like, .ilike, .anyOf, .noneOf], .text⟩,
      ⟨"entry-date", [.eq, .gt, .lt, .gte, .lte], .date⟩,
      ⟨"posted", [.eq, .ne], .boolean⟩,
      ⟨"description", [.like, .ilike], .text⟩]
    sorts := ["id", "number", "entry-date"] }
  defaultOrder := [⟨"id", .asc⟩]

def journalEntries : Resource where
  Row := JournalEntryRow
  State := JournalEntryState
  Out := JournalEntry
  name := "journal entry"
  rules := journalEntryRules
  source := .ofTable "journal_entries"
    { projections := plainColumns ["id", "number", "entry_date", "description", "posted"] }
  childColumns := [
    named "journal_lines" "id" "line_id",
    named "journal_lines" "debit" "line_debit",
    named "journal_lines" "credit" "line_credit",
    named "journal_lines" "memo" "line_memo",
    named "accounts" "id" "account_id",
    named "accounts" "code" "account_code",
    named "accounts" "name" "account_name",
    named "accounts" "kind" "account_kind"]
  childJoins := [
    ⟨.left, "journal_lines", column "journal_lines" "journal_entry_id", column sourceName "id"⟩,
    ⟨.left, "accounts", column "accounts" "id", column "journal_lines" "account_id"⟩]
  childOrder := [ascending "journal_lines" "id"]
  shape := journalEntryShape
  read := JournalEntryRow.read
  json := JournalEntry.json

/-! ## Quotations

A quotation without its customer is never listed; the payment term may be missing.
-/

def quotationRules : Rules where
  allow := {
    filters := [
      ⟨"id", [.eq, .anyOf, .noneOf], .integer⟩,
      ⟨"number", [.eq, .ne, .like, .ilike, .anyOf, .noneOf], .text⟩,
      ⟨"quotation-date", [.eq, .gt, .lt, .gte, .lte], .date⟩,
      ⟨"valid-until", [.gt, .lt, .gte, .lte], .date⟩,
      ⟨"status", [.eq, .ne, .anyOf, .noneOf], .text⟩,
      ⟨"customer-id", [.eq, .anyOf], .integer⟩,
      ⟨"customer-name", [.eq, .like, .ilike], .text⟩,
      ⟨"payment-term-id", [.eq, .anyOf], .integer⟩]
    sorts := ["id", "number", "quotation-date", "customer-name"] }
  defaultOrder := [⟨"quotation_date", .desc⟩, ⟨"id", .asc⟩]

def quotations : Resource where
  Row := QuotationRow
  State := QuotationState
  Out := Quotation
  name := "quotation"
  rules := quotationRules
  source := .ofTable "quotations"
    { projections :=
        columnsOf "quotations" ["id", "number", "quotation_date", "valid_until", "status",
          "discount", "delivery_fee", "customer_id", "payment_term_id"] ++
        [named "customers" "name" "customer_name",
         named "customers" "email" "customer_email",
         named "payment_terms" "name" "payment_term_name"]
      joins := [
        ⟨.inner, "customers", column "customers" "id", column "quotations" "customer_id"⟩,
        ⟨.left, "payment_terms", column "payment_terms" "id",
          column "quotations" "payment_term_id"⟩] }
  childColumns := [
    named "quotation_items" "id" "item_id",
    named "quotation_items" "product_name" "item_product_name",
    named "quotation_items" "quantity" "item_quantity",
    named "quotation_items" "unit_price" "item_unit_price"]
  childJoins := [
    ⟨.left, "quotation_items", column "quotation_items" "quotation_id", column sourceName "id"⟩]
  childOrder := [ascending "quotation_items" "id"]
  shape := quotationShape
  read := QuotationRow.read
  json := Quotation.json

/-! ## Sales orders

A sales order without its customer or quotation is never listed.  The payment term is that of the
quotation, and may be missing.
-/

def salesOrderRules : Rules where
  allow := {
    filters := [
      ⟨"id", [.eq, .anyOf, .noneOf], .integer⟩,
      ⟨"number", [.eq, .ne, .like, .ilike, .anyOf, .noneOf], .text⟩,
      ⟨"order-date", [.eq, .gt, .lt, .gte, .lte], .date⟩,
      ⟨"status", [.eq, .ne, .anyOf, .noneOf], .text⟩,
      ⟨"customer-id", [.eq, .anyOf], .integer⟩,
      ⟨"customer-name", [.eq, .like, .ilike], .text⟩,
      ⟨"quotation-id", [.eq, .anyOf], .integer⟩,
      ⟨"quotation-number", [.eq, .like, .ilike], .text⟩]
    sorts := ["id", "number", "order-date", "customer-name"] }
  defaultOrder := [⟨"order_date", .desc⟩, ⟨"id", .asc⟩]

def salesOrders : Resource where
  Row := SalesOrderRow
  State := SalesOrderState
  Out := SalesOrder
  name := "sales order"
  rules := salesOrderRules
  source := .ofTable "sales_orders"
    { projections :=
        columnsOf "sales_orders" ["id", "number", "order_date", "status", "discount",
          "delivery_fee", "customer_id", "quotation_id"] ++
        [named "customers" "name" "customer_name",
         named "customers" "email" "customer_email",
         named "quotations" "number" "quotation_number",
         named "quotations" "payment_term_id" "payment_term_id",
         named "payment_terms" "name" "payment_term_name"]
      joins := [
        ⟨.inner, "customers", column "customers" "id", column "sales_orders" "customer_id"⟩,
        ⟨.inner, "quotations", column "quotations" "id", column "sales_orders" "quotation_id"⟩,
        ⟨.left, "payment_terms", column "payment_terms" "id",
          column "quotations" "payment_term_id"⟩] }
  childColumns := [
    named "sales_order_items" "id" "item_id",
    named "sales_order_items" "product_name" "item_product_name",
    named "sales_order_items" "quantity" "item_quantity",
    named "sales_order_items" "unit_price" "item_unit_price",
    named "payment_term_lines" "id" "term_line_id",
    named "payment_term_lines" "sequence" "term_line_sequence",
    named "payment_term_lines" "value_type" "term_line_value_type",
    named "payment_term_lines" "value" "term_line_value",
    named "payment_term_lines" "days" "term_line_days"]
  childJoins := [
    ⟨.left, "sales_order_items", column "sales_order_items" "sales_order_id",
      column sourceName "id"⟩,
    ⟨.left, "payment_term_lines", column "payment_term_lines" "payment_term_id",
      column sourceName "payment_term_id"⟩]
  childOrder := [
    ascending "sales_order_items" "id",
    ascending "payment_term_lines" "sequence",
    ascending "payment_term_lines" "id"]
  shape := salesOrderShape
  read := SalesOrderRow.read
  json := SalesOrder.json

/-! ## Kinds of documents -/

inductive Kind
  | paymentTerm
  | journalEntry
  | quotation
  | salesOrder
deriving DecidableEq, Repr

namespace Kind

def all : List Kind :=
  [paymentTerm, journalEntry, quotation, salesOrder]

def resource : Kind → Resource
  | paymentTerm => paymentTerms
  | journalEntry => journalEntries
  | quotation => quotations
  | salesOrder => salesOrders

end Kind

end Daybook.Resource
