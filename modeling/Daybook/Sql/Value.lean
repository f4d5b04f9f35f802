import Daybook.Calendar
import Daybook.Text.Quoted

/-!
# SQL values

What a statement carries beside its text, and why it cannot be built or carry a value.
-/

namespace Daybook.Sql

/-! ## Values

A value may be NULL and still has a type.
-/

/-- The integer types that no statement of this library uses. -/
inductive NarrowType
  | tinyInt
  | smallInt
  | tinyUnsigned
  | smallUnsigned
  | unsigned
deriving DecidableEq, Repr

def NarrowType.name : NarrowType → String
  | tinyInt => "TinyInt"
  | smallInt => "SmallInt"
  | tinyUnsigned => "TinyUnsigned"
  | smallUnsigned => "SmallUnsigned"
  | unsigned => "Unsigned"

/-- A typed value; `none` is the NULL of its type. -/
inductive Value
  | bool (value : Option Bool)
  | int (value : Option Int32)
  | bigInt (value : Option Int64)
  | bigUnsigned (value : Option Nat)
  | string (value : Option String)
  | date (value : Option Date)
  | narrow (type : NarrowType) (value : Option Int)
  | char (value : Option Char)
deriving DecidableEq

def largestBigInt : Nat := 0x7FFFFFFFFFFFFFFF

def describe (type : String) (content : Option String) : String :=
  match content with
  | none => type ++ "(None)"
  | some content => type ++ "(Some(" ++ content ++ "))"

def Value.foreign? : Value → Option String
  | narrow type value => some (describe type.name (value.map toString))
  | char value => some (describe "Char" (value.map Text.quoteChar))
  | _ => none

/-! ## Query faults

Each is a mistake in the definition of a resource; no request of a client leads to one.
-/

inductive Fault
  | invalidIdentifier (name : String)
  | missingDefaultOrder
  -- A scalar or pattern filter has no value.
  | missingValue (field : String)
  -- A pattern filter has a value that is no text.
  | patternOnNonText (field : String)
  | unsupportedValue (description : String)
  | outOfRange (name : String) (value : Nat)
  | encoding (detail : String)
deriving DecidableEq, Repr

def Fault.message : Fault → String
  | invalidIdentifier name => s!"invalid SQL identifier: {name}"
  | missingDefaultOrder => "resource has no default ordering"
  | missingValue field => s!"filter on '{field}' has no value"
  | patternOnNonText field => s!"pattern operator used on non-text field '{field}'"
  | unsupportedValue description => s!"unsupported bound value type: {description}"
  | outOfRange name value => s!"{name} out of range: {value}"
  | encoding detail => s!"failed to encode bound value: {detail}"

end Daybook.Sql
