import Daybook.Document.Record
import Daybook.Grouping.Children
import Daybook.Grouping.Shape
import Daybook.Json.Value

/-!
# Journal entries

A journal entry debits and credits accounts, line by line, and balances when both sums are equal.
-/

namespace Daybook.Document

open Grouping

structure Account where
  id : Int64
  code : String
  name : String
  kind : String
deriving DecidableEq

structure JournalLine where
  id : Int64
  account : Account
  debit : Amount
  credit : Amount
  memo : Option String
deriving DecidableEq

structure JournalLineColumns where
  id : Option Int64 := none
  debit : Option Amount := none
  credit : Option Amount := none
  memo : Option String := none
  accountId : Option Int64 := none
  accountCode : Option String := none
  accountName : Option String := none
  accountKind : Option String := none
deriving DecidableEq

/-- The journal line that the columns hold, unless one of them is NULL; only the memo may be. -/
def JournalLine.of? (columns : JournalLineColumns) : Option JournalLine := do
  return {
    id := ← columns.id
    account := {
      id := ← columns.accountId
      code := ← columns.accountCode
      name := ← columns.accountName
      kind := ← columns.accountKind }
    debit := ← columns.debit
    credit := ← columns.credit
    memo := columns.memo }

structure JournalEntryHeader where
  id : Int64
  number : String
  entryDate : Date
  description : Option String
  posted : Bool
deriving DecidableEq

structure JournalEntryRow where
  header : JournalEntryHeader
  line : JournalLineColumns := {}
deriving DecidableEq

structure JournalEntry where
  header : JournalEntryHeader
  lines : List JournalLine
  totalDebit : Amount
  totalCredit : Amount
  balanced : Bool
deriving DecidableEq

def JournalEntry.of (header : JournalEntryHeader) (lines : List JournalLine) : JournalEntry :=
  let totalDebit := Amount.sum (lines.map JournalLine.debit)
  let totalCredit := Amount.sum (lines.map JournalLine.credit)
  { header, lines, totalDebit, totalCredit, balanced := totalDebit == totalCredit }

structure JournalEntryState where
  header : JournalEntryHeader
  lines : Children Int64 JournalLine := {}

def JournalEntryState.absorb (state : JournalEntryState) (row : JournalEntryRow) :
    JournalEntryState :=
  match JournalLine.of? row.line with
  | some line => { state with lines := (state.lines.upsertLast (some line.id) line).2 }
  | none => state

def journalEntryShape : Shape JournalEntryRow Int64 JournalEntryState JournalEntry where
  key row := row.header.id
  opening row := { header := row.header }
  absorb := JournalEntryState.absorb
  close state := .of state.header state.lines.items

/-! ## Reading from records -/

def JournalLineColumns.read (record : Record) : Except ColumnFault JournalLineColumns := do
  return {
    id := ← record.optional "line_id" Cell.int64?
    debit := ← record.optional "line_debit" Cell.int64?
    credit := ← record.optional "line_credit" Cell.int64?
    memo := ← record.optional "line_memo" Cell.text?
    accountId := ← record.optional "account_id" Cell.int64?
    accountCode := ← record.optional "account_code" Cell.text?
    accountName := ← record.optional "account_name" Cell.text?
    accountKind := ← record.optional "account_kind" Cell.text? }

def JournalEntryRow.read (record : Record) : Except ColumnFault JournalEntryRow := do
  return {
    header := {
      id := ← record.required "id" Cell.int64?
      number := ← record.required "number" Cell.text?
      entryDate := ← record.required "entry_date" Cell.date?
      description := ← record.optional "description" Cell.text?
      posted := ← record.required "posted" Cell.boolean? }
    line := ← JournalLineColumns.read record }

/-! ## Answers -/

def Account.json (account : Account) : Json :=
  .object [
    ("id", .number account.id.toInt),
    ("code", .string account.code),
    ("name", .string account.name),
    ("kind", .string account.kind)]

def JournalLine.json (line : JournalLine) : Json :=
  .object [
    ("id", .number line.id.toInt),
    ("account", line.account.json),
    ("debit", .number line.debit.toInt),
    ("credit", .number line.credit.toInt),
    ("memo", .ofOption .string line.memo)]

def JournalEntry.json (entry : JournalEntry) : Json :=
  .object [
    ("id", .number entry.header.id.toInt),
    ("number", .string entry.header.number),
    ("entry_date", .string (toString entry.header.entryDate)),
    ("description", .ofOption .string entry.header.description),
    ("posted", .bool entry.header.posted),
    ("lines", .array (entry.lines.map JournalLine.json)),
    ("total_debit", .number entry.totalDebit.toInt),
    ("total_credit", .number entry.totalCredit.toInt),
    ("balanced", .bool entry.balanced)]

end Daybook.Document
