import Daybook.Listing.Intake

/-!
# Parts of a request

An intake is given one entry at a time.  What an entry says is read by the policy alone, whatever
has been taken in before: it is a part of the parameters, or there is a reason against it.  So a run
of entries can be read first, and its parts be put together afterwards.
-/

namespace Daybook.Listing

/-! ## Entries -/

/-- What an intake is given at a time. -/
inductive Entry
  | filter (token : String)
  | sort (field direction : String)
  | offset (raw : String)
  | limit (raw : String)
deriving DecidableEq

inductive PairKind
  | filter
  | sort
  | offset
  | limit
deriving DecidableEq, Repr

def keyKind (key : String) : PairKind :=
  if key = "offset" then .offset
  else if key = "limit" then .limit
  else if Intake.sortMark.isPrefixOf key.toList then .sort
  else .filter

def sortedField (key : String) : String :=
  String.ofList (key.toList.drop Intake.sortMark.length)

def Entry.ofPair (key value : String) : Entry :=
  match keyKind key with
  | .filter => .filter (key ++ "=" ++ value)
  | .sort => .sort (sortedField key) value
  | .offset => .offset value
  | .limit => .limit value

/-! ## Reading -/

inductive Part
  | filter (filter : Filter)
  | sort (sort : SortField)
  | offset (rows : Nat)
  | limit (rows : Nat)
deriving DecidableEq

def SortField.read (allow : AllowList) (field direction : String) : Except Rejection SortField :=
  if allow.sortable field then
    match Direction.read? direction.toList with
    | some parsed => .ok ⟨field, parsed⟩
    | none => .error (.invalidDirection field direction)
  else .error (.unknownSortField field)

def readOffset (raw : String) : Except Rejection Nat :=
  match Intake.rowCount? raw with
  | some rows => .ok rows
  | none => .error (.invalidPagination "offset" raw)

/-- The length of a page that is asked for: at most that of the longest page, and not zero. -/
def PageLimits.read (limits : PageLimits) (raw : String) : Except Rejection Nat :=
  match (Intake.rowCount? raw).map fun rows => min rows limits.most with
  | some (rows + 1) => .ok (rows + 1)
  | _ => .error (.invalidPagination "limit" raw)

/-- The part that an entry says, or the reason against it. -/
def Policy.read (policy : Policy) : Entry → Except Rejection Part
  | .filter token => (Filter.read policy.allow token).map .filter
  | .sort field direction => (SortField.read policy.allow field direction).map .sort
  | .offset raw => (readOffset raw).map .offset
  | .limit raw => (policy.limits.read raw).map .limit

/-! ## Putting parts together -/

def addSorted (sorts : List SortField) (sort : SortField) : List SortField :=
  if sorts.any fun other => other.field == sort.field then sorts else sorts ++ [sort]

def Params.accept (params : Params) : Part → Params
  | .filter filter => { params with filters := params.filters ++ [filter] }
  | .sort sort => { params with sorts := addSorted params.sorts sort }
  | .offset rows => { params with offset := rows }
  | .limit rows => { params with limit := rows }

namespace Intake

/-- Goes on with what an entry says. -/
def settle (intake : Intake) : Except Rejection Part → Intake
  | .ok part => { intake with params := intake.params.accept part }
  | .error rejection => intake.reject rejection

variable (policy : Policy) (intake : Intake)

/-- Every way to add something is reading a part and settling the result. -/
theorem addFilter_eq (token : String) :
    intake.addFilter policy token = intake.settle (policy.read (.filter token)) := by
  rw [addFilter, Policy.read]
  cases Filter.read policy.allow token <;> rfl

theorem addSort_eq (field direction : String) :
    intake.addSort policy field direction =
      intake.settle (policy.read (.sort field direction)) := by
  rw [addSort, Policy.read, SortField.read]
  by_cases hsortable : policy.allow.sortable field
  · rw [if_pos hsortable, if_pos hsortable]
    cases Direction.read? direction.toList with
    | none => rfl
    | some parsed =>
      simp only [Except.map, settle, Params.accept, addSorted]
      split <;> rfl
  · rw [if_neg hsortable, if_neg hsortable]
    rfl

theorem setOffset_eq (raw : String) :
    intake.setOffset raw = intake.settle (policy.read (.offset raw)) := by
  rw [setOffset, Policy.read, readOffset]
  cases rowCount? raw <;> rfl

theorem setLimit_eq (raw : String) :
    intake.setLimit policy raw = intake.settle (policy.read (.limit raw)) := by
  rw [setLimit, Policy.read, PageLimits.read]
  rcases (rowCount? raw).map fun rows => min rows policy.limits.most with _ | _ | rows <;> rfl

/-- A pair is taken in as the entry that it stands for. -/
theorem addPair_eq (key value : String) :
    intake.addPair policy key value = intake.settle (policy.read (.ofPair key value)) := by
  unfold addPair Entry.ofPair keyKind
  by_cases hoffset : key = "offset"
  · rw [if_pos hoffset, if_pos hoffset, setOffset_eq policy]
  rw [if_neg hoffset, if_neg hoffset]
  by_cases hlimit : key = "limit"
  · rw [if_pos hlimit, if_pos hlimit, setLimit_eq]
  rw [if_neg hlimit, if_neg hlimit, Text.after?]
  by_cases hsort : sortMark.isPrefixOf key.toList
  · rw [if_pos hsort, if_pos hsort]
    exact addSort_eq policy intake (sortedField key) value
  · rw [if_neg hsort, if_neg hsort]
    exact addFilter_eq policy intake (key ++ "=" ++ value)

end Intake

/-! ## Runs of pairs -/

namespace Policy

variable (policy : Policy)

def readings (pairs : List (String × String)) : List (Except Rejection Part) :=
  pairs.map fun (key, value) => policy.read (.ofPair key value)

/-- All pairs are read apart from each other and settled in order. -/
theorem ofPairs_eq_foldl (pairs : List (String × String)) :
    Intake.ofPairs policy pairs = (policy.readings pairs).foldl Intake.settle (.start policy) := by
  rw [Intake.ofPairs, readings, List.foldl_map]
  congr 1
  funext intake ⟨key, value⟩
  exact Intake.addPair_eq policy intake key value

end Policy

end Daybook.Listing
