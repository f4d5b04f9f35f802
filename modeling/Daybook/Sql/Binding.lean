import Daybook.Sql.Text
import Daybook.Sql.Value

/-!
# Binding

What the database is given for the placeholders of a statement.  Only the types that statements of
this library carry can be bound, and an unsigned number only if it fits a 64-bit column.
-/

namespace Daybook.Sql

inductive Argument
  | null
  | bool (value : Bool)
  | integer (value : Int)
  | text (value : String)
  | date (value : Date)
deriving DecidableEq

def Value.argument (value : Value) : Except Fault Argument :=
  match value with
  | bool value => .ok (value.elim .null .bool)
  | int value => .ok (value.elim .null fun n => .integer n.toInt)
  | bigInt value => .ok (value.elim .null fun n => .integer n.toInt)
  | bigUnsigned none => .ok .null
  | bigUnsigned (some n) =>
    if n ≤ largestBigInt then .ok (.integer n) else .error (.outOfRange "parameter" n)
  | string value => .ok (value.elim .null .text)
  | date value => .ok (value.elim .null .date)
  | narrow type value => .error (.unsupportedValue (describe type.name (value.map toString)))
  | char value => .error (.unsupportedValue (describe "Char" (value.map Text.quoteChar)))

def arguments (values : List Value) : Except Fault (List Argument) :=
  values.mapM Value.argument

structure Call where
  sql : String
  arguments : List Argument
deriving DecidableEq

def Compiled.call (compiled : Compiled) : Except Fault Call :=
  (arguments compiled.values).map fun arguments => { sql := compiled.sql, arguments }

end Daybook.Sql
