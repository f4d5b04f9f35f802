import Daybook.Proofs.Except
import Daybook.Sql.Binding

/-!
# What a statement carries

The values and the columns of a statement, read off the statement itself.  Its text carries exactly
these values, in this order, and all of them can be bound if each can.
-/

namespace Daybook.Sql

/-! ## Values and columns of a statement -/

namespace Condition

def column : Condition → Column
  | compare column _ _ | anyOf column _ | noneOf column _ => column

-- An empty list is written as a comparison of two numbers, which are bound like other values.
def values : Condition → List Value
  | compare _ _ value => [value]
  | anyOf _ [] => [.int (some 1), .int (some 2)]
  | anyOf _ values => values
  | noneOf _ [] => [.int (some 1), .int (some 1)]
  | noneOf _ values => values

end Condition

namespace Clauses

def values (clauses : Clauses) : List Value :=
  clauses.conditions.flatMap Condition.values ++
    clauses.limit.toList.map (fun limit => .bigUnsigned (some limit)) ++
    clauses.offset.toList.map fun offset => .bigUnsigned (some offset)

def columns (clauses : Clauses) : List Column :=
  clauses.conditions.map Condition.column ++ clauses.order.map OrderTerm.column

end Clauses

namespace Select

def values : Select → List Value
  | ofTable _ clauses => clauses.values
  | ofSelect source _ clauses => source.values ++ clauses.values

/-- The columns that rows are kept or ordered by, in the query and in those inside it. -/
def columns : Select → List Column
  | ofTable _ clauses => clauses.columns
  | ofSelect source _ clauses => source.columns ++ clauses.columns

end Select

/-! ## Values of a text -/

namespace Fragment

def values (fragments : List Fragment) : List Value := fragments.filterMap value?

theorem values_nil : values [] = [] := rfl

theorem values_text (words : String) (rest : List Fragment) :
    values (text words :: rest) = values rest := rfl

/-- The values of fragments are bound in the order of the fragments. -/
theorem values_append (fragments more : List Fragment) :
    values (fragments ++ more) = values fragments ++ values more := List.filterMap_append

theorem values_joined (separator : String) (rows : List (List Fragment)) :
    values (joined separator rows) = rows.flatMap values := by
  unfold joined
  induction rows with
  | nil => rfl
  | cons row rows ih =>
    cases rows with
    | nil => simp [List.intercalate]
    | cons next rest =>
      rw [List.intercalate, List.intersperse_cons_cons, List.flatten_cons, List.flatten_cons,
        ← List.intercalate, values_append, values_append, ih]
      rfl

theorem values_clause (keyword separator : String) (rows : List (List Fragment)) :
    values (clause keyword separator rows) = rows.flatMap values := by
  unfold clause
  cases rows with
  | nil => rfl
  | cons row rows => rw [if_neg (by simp), values_text, values_joined]

variable {α : Type} (cs : List α)

theorem values_map_text (words : α → String) : values (cs.map fun c => text (words c)) = [] := by
  induction cs with
  | nil => rfl
  | cons c cs ih => rw [List.map_cons, values_text, ih]

theorem flatMap_values_text (words : α → String) :
    (cs.map fun c => [text (words c)]).flatMap values = [] := by
  induction cs with
  | nil => rfl
  | cons c cs ih => rw [List.map_cons, List.flatMap_cons, ih]; rfl

theorem flatMap_values_parameter (value : α → Value) :
    (cs.map fun c => [parameter (value c)]).flatMap values = cs.map value := by
  induction cs with
  | nil => rfl
  | cons c cs ih => rw [List.map_cons, List.flatMap_cons, ih]; rfl

end Fragment

open Fragment

namespace Condition

theorem values_fragments (condition : Condition) :
    Fragment.values condition.fragments = condition.values := by
  have hlist : ∀ column operator values,
      Fragment.values (listFragments column operator values) = values := by
    intro column operator values
    rw [listFragments, List.cons_append, values_text, values_append, values_joined,
      flatMap_values_parameter, values_text, values_nil, List.append_nil, List.map_id']
  cases condition with
  | compare column comparison value => rfl
  | anyOf column values =>
    cases values with
    | nil => rfl
    | cons value values => exact hlist column "IN" (value :: values)
  | noneOf column values =>
    cases values with
    | nil => rfl
    | cons value values => exact hlist column "NOT IN" (value :: values)

theorem values_conjunct (condition : Condition) :
    Fragment.values condition.conjunct = condition.values := by
  unfold conjunct
  split
  · rw [List.cons_append, values_text, values_append, values_text, values_nil, List.append_nil,
      values_fragments]
  · exact condition.values_fragments

theorem values_conjunction (conditions : List Condition) :
    (conjunction conditions).flatMap Fragment.values = conditions.flatMap Condition.values := by
  unfold conjunction
  split
  · simp [values_fragments]
  · rw [List.flatMap_map]
    exact List.flatMap_congr fun condition _ => condition.values_conjunct

end Condition

theorem Clauses.values_head (clauses : Clauses) : Fragment.values clauses.head = [] := by
  rw [head, List.cons_append, values_text, values_append, values_joined, flatMap_values_text]
  rfl

/-- Conditions come first, then the limit and then the offset. -/
theorem Clauses.values_tail (clauses : Clauses) :
    Fragment.values clauses.tail = clauses.values := by
  rw [tail, values_append, values_append, values_append, values_append, values_map_text,
    values_clause, values_clause, values_clause, values_clause, Condition.values_conjunction,
    flatMap_values_text, flatMap_values_parameter, flatMap_values_parameter, List.nil_append,
    List.append_nil, Clauses.values]

/-- A statement binds the values of its source before its own. -/
theorem Select.values_fragments (query : Select) :
    Fragment.values query.fragments = query.values := by
  induction query with
  | ofTable table clauses =>
    rw [fragments, values_append, clauses.values_head, values_text, clauses.values_tail]
    rfl
  | ofSelect source name clauses ih =>
    rw [fragments, List.append_assoc, values_append, clauses.values_head, List.cons_append,
      values_text, values_append, ih, values_text, clauses.values_tail]
    rfl

theorem Select.values_compile (query : Select) : query.compile.values = query.values :=
  query.values_fragments

/-! ## Binding -/

/-- The database takes the value: its type is in use, its number fits a 64-bit column and its text
is free of NUL. -/
def Value.Bindable : Value → Prop
  | bool _ | int _ | bigInt _ | date _ => True
  | bigUnsigned value => ∀ n ∈ value, n ≤ largestBigInt
  | string value => ∀ s ∈ value, '\x00' ∉ s.toList
  | narrow _ _ | char _ => False

/-- A value that can be bound becomes an argument. -/
theorem Value.exists_argument {value : Value} (h : value.Bindable) :
    ∃ argument, value.argument = .ok argument := by
  cases value with
  | bigUnsigned value =>
    cases value with
    | none => exact ⟨_, rfl⟩
    | some n => exact ⟨_, if_pos (h n rfl)⟩
  | narrow type value => exact h.elim
  | char value => exact h.elim
  | _ => exact ⟨_, rfl⟩

theorem exists_arguments {values : List Value} (h : ∀ value ∈ values, value.Bindable) :
    ∃ bound, arguments values = .ok bound ∧ bound.length = values.length := by
  obtain ⟨bound, hbound, _⟩ := exists_mapM_eq_ok (P := fun _ : Argument => True) fun value hvalue =>
    (Value.exists_argument (h value hvalue)).imp fun _ hargument => ⟨hargument, trivial⟩
  exact ⟨bound, hbound, (mapM_eq_ok_iff.mp hbound).length_eq.symm⟩

/-! ## Values that are not bound -/

/-- The fault of a number that no 64-bit column holds. -/
def rangeFaults (n : Nat) : List Fault :=
  if n ≤ largestBigInt then [] else [.outOfRange "parameter" n]

/-- The fault of a value that the database does not take. -/
def Value.faults : Value → List Fault
  | bigUnsigned (some n) => rangeFaults n
  | value => value.foreign?.toList.map .unsupportedValue

/-- A value fails by its own faults. -/
theorem Value.failsFirst_argument (value : Value) : FailsFirst value.argument value.faults := by
  cases value with
  | bigUnsigned number =>
    cases number with
    | none => exact .ok _
    | some n =>
      rw [argument, faults, rangeFaults]
      by_cases hfits : n ≤ largestBigInt
      · rw [if_pos hfits, if_pos hfits]
        exact .ok _
      · rw [if_neg hfits, if_neg hfits]
        exact .error _ _
  | narrow type content => exact .error _ _
  | char content => exact .error _ _
  | _ => exact .ok _

/-- Values are bound one after the other, so that the first fault is told. -/
theorem failsFirst_arguments (values : List Value) :
    FailsFirst (arguments values) (values.flatMap Value.faults) :=
  .mapM fun value _ => value.failsFirst_argument

end Daybook.Sql
