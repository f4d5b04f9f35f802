import Daybook.Amount
import Daybook.Calendar

/-!
# Records

A row as the database gives it: cells under column names.  A reader takes one column and says which
column it could not read; a column that is not there reads as NULL.
-/

namespace Daybook.Document

/-- What a column holds in one row.  Dates arrive in the form in which they are written. -/
inductive Cell
  | null
  | boolean (value : Bool)
  | integer (value : Int)
  | text (value : String)
deriving DecidableEq, Repr

structure Record where
  cells : List (String × Cell)
deriving DecidableEq

structure ColumnFault where
  column : String
deriving DecidableEq, Repr

namespace Cell

def boolean? : Cell → Option Bool
  | boolean value => some value
  | _ => none

def text? : Cell → Option String
  | text value => some value
  | _ => none

def int32? : Cell → Option Int32
  | integer value => if (Int32.ofInt value).toInt = value then some (.ofInt value) else none
  | _ => none

def int64? : Cell → Option Int64
  | integer value => if (Int64.ofInt value).toInt = value then some (.ofInt value) else none
  | _ => none

def date? : Cell → Option Date
  | text value => Date.read? value.toList
  | _ => none

end Cell

namespace Record

def cell (record : Record) (column : String) : Cell :=
  (record.cells.lookup column).getD .null

variable {α : Type}

def optional (record : Record) (column : String) (read? : Cell → Option α) :
    Except ColumnFault (Option α) :=
  match record.cell column with
  | .null => .ok none
  | cell =>
    match read? cell with
    | some value => .ok (some value)
    | none => .error ⟨column⟩

def required (record : Record) (column : String) (read? : Cell → Option α) :
    Except ColumnFault α :=
  match read? (record.cell column) with
  | some value => .ok value
  | none => .error ⟨column⟩

end Record

end Daybook.Document
