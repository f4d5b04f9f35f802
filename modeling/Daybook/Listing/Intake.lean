import Daybook.Listing.Field
import Daybook.Listing.Params

/-!
# Taking in a request

An `Intake` holds what a request has asked for so far and what was dropped from it.  Each part of
the request either changes the parameters or adds one rejection, never both, and reading as a whole
cannot fail.
-/

namespace Daybook.Listing

/-! ## Rejections

A part of a request that does not hold up against the allow-list is dropped, and the reason is kept.
-/

inductive Rejection
  -- The token is not of the form field, colon, operator, equals sign, value.
  | malformedToken (token : String)
  | unknownField (field : String)
  | unknownOperator (name : String)
  -- The operator exists, but not for this field.
  | operatorNotAllowed (field : String) (operator : Operator)
  -- The value is not of the field's kind.
  | invalidValue (field value : String)
  | unknownSortField (field : String)
  | invalidDirection (field direction : String)
  -- An offset or limit is no number or out of range.
  | invalidPagination (name value : String)
deriving DecidableEq, Repr

def Rejection.message : Rejection → String
  | malformedToken token => s!"malformed filter token '{token}'"
  | unknownField field => s!"unknown filter field '{field}'"
  | unknownOperator name => s!"unknown operator '{name}'"
  | operatorNotAllowed field operator =>
    let name := operator.wireName
    s!"operator '{name}' not allowed on '{field}'"
  | invalidValue field value => s!"invalid value '{value}' for '{field}'"
  | unknownSortField field => s!"unknown sort field '{field}'"
  | invalidDirection field direction => s!"invalid sort direction '{direction}' for '{field}'"
  | invalidPagination name value => s!"invalid {name} '{value}'"

/-- The three parts of a filter token: field, operator name and value.  The first equals sign ends
the name part, and a single colon divides that. -/
def splitToken? (token : List Char) : Option (String × String × List Char) :=
  match Text.cut? '=' token with
  | none => none
  | some (name, raw) =>
    match Text.pieces ':' name with
    | [field, operator] =>
      if field = [] ∨ operator = [] then none
      else some (String.ofList field, String.ofList operator, raw)
    | _ => none

-- The filter that a token stands for, or the first reason against it.
def Filter.read (allow : AllowList) (token : String) : Except Rejection Filter :=
  match splitToken? token.toList with
  | none => .error (.malformedToken token)
  | some (field, name, raw) =>
    match allow.filter? field with
    | none => .error (.unknownField field)
    | some allowed =>
      match Operator.ofWireName? name with
      | none => .error (.unknownOperator name)
      | some operator =>
        if allowed.permits operator then
          match allowed.kind.readAll? operator raw with
          | none => .error (.invalidValue field (String.ofList raw))
          | some values => .ok ⟨allowed.field, operator, values⟩
        else .error (.operatorNotAllowed field operator)

structure Policy where
  allow : AllowList
  limits : PageLimits := {}

/-- What a request asks for, and what was dropped from it, in the order of the request. -/
structure Intake where
  params : Params
  rejections : List Rejection := []
deriving DecidableEq

namespace Intake

def start (policy : Policy) : Intake :=
  { params := { limit := policy.limits.standard } }

def reject (intake : Intake) (rejection : Rejection) : Intake :=
  { intake with rejections := intake.rejections ++ [rejection] }

def addFilter (policy : Policy) (intake : Intake) (token : String) : Intake :=
  match Filter.read policy.allow token with
  | .ok filter =>
    { intake with params.filters := intake.params.filters ++ [filter] }
  | .error rejection => intake.reject rejection

/-- Takes in a sort.  A field that is already sorted by keeps its first place and direction. -/
def addSort (policy : Policy) (intake : Intake) (field direction : String) : Intake :=
  if policy.allow.sortable field then
    match Direction.read? direction.toList with
    | some parsed =>
      if intake.params.sorts.any fun sort => sort.field == field then intake
      else { intake with params.sorts := intake.params.sorts ++ [⟨field, parsed⟩] }
    | none => intake.reject (.invalidDirection field direction)
  else intake.reject (.unknownSortField field)

def rowCount? (raw : String) : Option Nat :=
  (Text.readNat Sql.largestBigInt (Text.trim raw.toList)).toOption

def setOffset (intake : Intake) (raw : String) : Intake :=
  match rowCount? raw with
  | some offset => { intake with params.offset := offset }
  | none => intake.reject (.invalidPagination "offset" raw)

/-- Takes in a limit, lowered to the longest page if need be.  An empty page is no page. -/
def setLimit (policy : Policy) (intake : Intake) (raw : String) : Intake :=
  match (rowCount? raw).map fun limit => min limit policy.limits.most with
  | some (limit + 1) => { intake with params.limit := limit + 1 }
  | _ => intake.reject (.invalidPagination "limit" raw)

def sortMark : List Char := "sort:".toList

/-- Takes in one pair of a query string.  Any key that is neither of the page nor of a sort makes a
filter token together with its value. -/
def addPair (policy : Policy) (intake : Intake) (key value : String) : Intake :=
  if key = "offset" then intake.setOffset value
  else if key = "limit" then intake.setLimit policy value
  else match Text.after? sortMark key.toList with
    | some field => intake.addSort policy (String.ofList field) value
    | none => intake.addFilter policy (key ++ "=" ++ value)

def ofPairs (policy : Policy) (pairs : List (String × String)) : Intake :=
  pairs.foldl (fun intake (key, value) => intake.addPair policy key value) (start policy)

end Intake

end Daybook.Listing
