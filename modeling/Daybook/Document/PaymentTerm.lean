import Daybook.Document.Record
import Daybook.Grouping.Children
import Daybook.Grouping.Shape
import Daybook.Json.Value

/-!
# Payment terms

A payment term splits the total of a document over lines, each of which names a part of it and the
days until it is due.
-/

namespace Daybook.Document

open Grouping

inductive ValueType
  | percent
  | fixed
  | balance
deriving DecidableEq, Repr

namespace ValueType

def name : ValueType → String
  | percent => "percent"
  | fixed => "fixed"
  | balance => "balance"

def ofName? (name : String) : Option ValueType :=
  [percent, fixed, balance].find? fun type => type.name == name

def unknownMessage (name : String) : String :=
  s!"unknown payment term value type: {name}"

end ValueType

def Cell.valueType? : Cell → Option ValueType
  | text name => ValueType.ofName? name
  | _ => none

structure TermLine where
  id : Int64
  sequence : Int32
  valueType : ValueType
  value : Amount
  days : Int32
deriving DecidableEq

/-- The columns of a term line in a joined row, all NULL where the join found none. -/
structure TermLineColumns where
  id : Option Int64 := none
  sequence : Option Int32 := none
  valueType : Option ValueType := none
  value : Option Amount := none
  days : Option Int32 := none
deriving DecidableEq

-- The term line that the columns hold, unless one of them is NULL.
def TermLine.of? (columns : TermLineColumns) : Option TermLine := do
  return {
    id := ← columns.id
    sequence := ← columns.sequence
    valueType := ← columns.valueType
    value := ← columns.value
    days := ← columns.days }

structure PaymentTermHeader where
  id : Int64
  name : String
  description : Option String
  createdAt : Date
deriving DecidableEq

structure PaymentTermRow where
  header : PaymentTermHeader
  line : TermLineColumns := {}
deriving DecidableEq

structure PaymentTerm where
  header : PaymentTermHeader
  lines : List TermLine
  -- The sum of the percent lines, in basis points.
  allocatedPercent : Amount
deriving DecidableEq

def PaymentTerm.of (header : PaymentTermHeader) (lines : List TermLine) : PaymentTerm where
  header := header
  lines := lines
  allocatedPercent :=
    Amount.sum ((lines.filter fun line => line.valueType = .percent).map TermLine.value)

structure PaymentTermState where
  header : PaymentTermHeader
  lines : Children Int64 TermLine := {}

def PaymentTermState.absorb (state : PaymentTermState) (row : PaymentTermRow) :
    PaymentTermState :=
  match TermLine.of? row.line with
  | some line => { state with lines := (state.lines.upsertLast (some line.id) line).2 }
  | none => state

def paymentTermShape : Shape PaymentTermRow Int64 PaymentTermState PaymentTerm where
  key row := row.header.id
  opening row := { header := row.header }
  absorb := PaymentTermState.absorb
  close state := .of state.header state.lines.items

/-! ## Reading from records -/

-- The term line columns of a row, whose names start with `lead`.
def TermLineColumns.read (lead : String) (record : Record) :
    Except ColumnFault TermLineColumns := do
  return {
    id := ← record.optional (lead ++ "id") Cell.int64?
    sequence := ← record.optional (lead ++ "sequence") Cell.int32?
    valueType := ← record.optional (lead ++ "value_type") Cell.valueType?
    value := ← record.optional (lead ++ "value") Cell.int64?
    days := ← record.optional (lead ++ "days") Cell.int32? }

def PaymentTermRow.read (record : Record) : Except ColumnFault PaymentTermRow := do
  return {
    header := {
      id := ← record.required "id" Cell.int64?
      name := ← record.required "name" Cell.text?
      description := ← record.optional "description" Cell.text?
      createdAt := ← record.required "created_at" Cell.date? }
    line := ← TermLineColumns.read "line_" record }

/-! ## Answers -/

def TermLine.json (line : TermLine) : Json :=
  .object [
    ("id", .number line.id.toInt),
    ("sequence", .number line.sequence.toInt),
    ("value_type", .string line.valueType.name),
    ("value", .number line.value.toInt),
    ("days", .number line.days.toInt)]

def PaymentTerm.json (term : PaymentTerm) : Json :=
  .object [
    ("id", .number term.header.id.toInt),
    ("name", .string term.header.name),
    ("description", .ofOption .string term.header.description),
    ("created_at", .string (toString term.header.createdAt)),
    ("lines", .array (term.lines.map TermLine.json)),
    ("allocated_percent", .number term.allocatedPercent.toInt)]

end Daybook.Document
