import Daybook.Proofs.Sql.Values

/-!
# Numbers of placeholders

The text of a statement, part by part: each part counts on from the values of the parts before it.
So the placeholders of the whole text count from 1, and there is one for each value.
-/

namespace Daybook.Sql

def mark (number : Nat) : String := "$" ++ toString number

namespace Fragment

/-! ## Parts of a text -/

theorem values_parameter (value : Value) (rest : List Fragment) :
    values (parameter value :: rest) = value :: values rest := rfl

theorem numbered_text (next : Nat) (words : String) (rest : List Fragment) :
    numbered next (text words :: rest) = words ++ numbered next rest := rfl

theorem numbered_parameter (next : Nat) (value : Value) (rest : List Fragment) :
    numbered next (parameter value :: rest) = mark next ++ numbered (next + 1) rest := rfl

theorem numbered_nil (next : Nat) : numbered next [] = "" := rfl

/-- Later fragments go on with the number after the last of the earlier ones. -/
theorem numbered_append (next : Nat) (fragments more : List Fragment) :
    numbered next (fragments ++ more) =
      numbered next fragments ++ numbered (next + (values fragments).length) more := by
  induction fragments generalizing next with
  | nil => rw [List.nil_append, numbered_nil, String.empty_append, values_nil]; rfl
  | cons fragment fragments ih =>
    cases fragment with
    | text words =>
      rw [List.cons_append, numbered_text, numbered_text, ih, values_text, String.append_assoc]
    | parameter value =>
      rw [List.cons_append, numbered_parameter, numbered_parameter, ih, values_parameter,
        List.length_cons, String.append_assoc, Nat.add_right_comm, Nat.add_assoc]

/-- The texts of some rows, each of which counts on from the row before it. -/
def texts (next : Nat) : List (List Fragment) → List String
  | [] => []
  | row :: rows => numbered next row :: texts (next + (values row).length) rows

/-- Separators have no numbers, so joined rows are numbered through. -/
theorem numbered_joined (next : Nat) (separator : String) (rows : List (List Fragment)) :
    numbered next (joined separator rows) = separator.intercalate (texts next rows) := by
  unfold joined
  induction rows generalizing next with
  | nil => rfl
  | cons row rows ih =>
    cases rows with
    | nil => rw [List.intercalate_singleton, texts, texts, String.intercalate_singleton]
    | cons second rest =>
      have hcount : (values (row ++ [text separator])).length = (values row).length := by
        rw [values_append, values_text, values_nil, List.append_nil]
      rw [List.intercalate_cons_cons, numbered_append, numbered_append, hcount, ih, numbered_text,
        numbered_nil, String.append_empty]
      exact String.intercalate_cons_cons.symm

/-- A clause with something in it has its keyword in front. -/
theorem numbered_clause (next : Nat) (keyword separator : String)
    {rows : List (List Fragment)} (h : rows ≠ []) :
    numbered next (clause keyword separator rows) =
      keyword ++ separator.intercalate (texts next rows) := by
  rw [clause, if_neg (by simpa using h), numbered_text, numbered_joined]

variable {α : Type} (cs : List α)

theorem texts_map_text (next : Nat) (words : α → String) :
    texts next (cs.map fun c => [text (words c)]) = cs.map words := by
  induction cs with
  | nil => rfl
  | cons c cs ih =>
    rw [List.map_cons, List.map_cons, texts, numbered_text, numbered_nil, String.append_empty]
    exact congrArg (words c :: ·) ih

theorem texts_map_parameter (next : Nat) (value : α → Value) :
    texts next (cs.map fun c => [parameter (value c)]) =
      (List.range' next cs.length).map mark := by
  induction cs generalizing next with
  | nil => rfl
  | cons c cs ih =>
    rw [List.map_cons, texts, numbered_parameter, numbered_nil, String.append_empty,
      List.length_cons, List.range'_succ, List.map_cons]
    exact congrArg (mark next :: ·) (ih (next + 1))

theorem numbered_map_text (next : Nat) (words : α → String) :
    numbered next (cs.map fun c => text (words c)) = String.join (cs.map words) := by
  induction cs with
  | nil => rfl
  | cons c cs ih => rw [List.map_cons, List.map_cons, numbered_text, ih, String.join_cons]

end Fragment

/-! ## Texts of queries -/

open Fragment

theorem Clauses.numbered_head (next : Nat) (clauses : Clauses) :
    numbered next clauses.head =
      "SELECT " ++ ", ".intercalate (clauses.projections.map Projection.text) ++ " FROM " := by
  have hvalues : Fragment.values (joined ", " (clauses.projections.map fun projection =>
      [text projection.text])) = [] := by
    rw [values_joined, flatMap_values_text]
  rw [head, List.cons_append, numbered_text, numbered_append, hvalues, numbered_joined,
    texts_map_text, numbered_text, numbered_nil, String.append_empty, String.append_assoc]

def orderText (terms : List OrderTerm) : String :=
  if terms.isEmpty then "" else " ORDER BY " ++ ", ".intercalate (terms.map OrderTerm.text)

-- A number of rows in words, where it has the placeholder with the given number.
def rowsText (keyword : String) (number : Nat) (rows : Option Nat) : String :=
  if rows.isSome then keyword ++ mark number else ""

theorem numbered_order (next : Nat) (terms : List OrderTerm) :
    numbered next (clause " ORDER BY " ", " (terms.map fun term => [text term.text])) =
      orderText terms := by
  cases terms with
  | nil => rfl
  | cons term terms =>
    rw [numbered_clause _ _ _ (by simp), texts_map_text]
    rfl

theorem numbered_rows (next : Nat) (keyword : String) (rows : Option Nat) :
    numbered next (clause keyword "" (rows.toList.map fun n =>
      [parameter (.bigUnsigned (some n))])) = rowsText keyword next rows := by
  cases rows with
  | none => rfl
  | some n =>
    rw [numbered_clause _ _ _ (by simp), texts_map_parameter]
    exact congrArg (keyword ++ ·) String.intercalate_singleton

/-- The tail numbers its conditions, then the limit and then the offset. -/
theorem Clauses.numbered_tail (next : Nat) (clauses : Clauses) :
    numbered next clauses.tail =
      String.join (clauses.joins.map Join.text) ++
        numbered next (clause " WHERE " " AND " (Condition.conjunction clauses.conditions)) ++
        orderText clauses.order ++
        rowsText " LIMIT " (next + (clauses.conditions.flatMap Condition.values).length)
          clauses.limit ++
        rowsText " OFFSET " (next + (clauses.conditions.flatMap Condition.values).length +
          clauses.limit.toList.length) clauses.offset := by
  rw [tail]
  simp only [numbered_append, values_append, values_map_text, values_clause,
    Condition.values_conjunction, flatMap_values_text, flatMap_values_parameter, numbered_map_text,
    numbered_order, numbered_rows, List.nil_append, List.append_nil, List.length_append,
    List.length_nil, List.length_map, Nat.add_zero, Nat.add_assoc]

theorem Select.exists_numbered_eq (next : Nat) (query : Select) :
    ∃ rest, numbered next query.fragments = "SELECT " ++ rest := by
  cases query with
  | ofTable table clauses =>
    rw [fragments, numbered_append, clauses.numbered_head, String.append_assoc, String.append_assoc]
    exact ⟨_, rfl⟩
  | ofSelect source name clauses =>
    rw [fragments, List.append_assoc, numbered_append, clauses.numbered_head, String.append_assoc,
      String.append_assoc]
    exact ⟨_, rfl⟩

/-- A statement around another one goes on where the numbers of the inner one end. -/
theorem Select.numbered_ofSelect (next : Nat) (source : Select) (name : String)
    (clauses : Clauses) :
    numbered next (ofSelect source name clauses).fragments =
      "SELECT " ++ ", ".intercalate (clauses.projections.map Projection.text) ++ " FROM (" ++
        numbered next source.fragments ++ ") AS " ++ quoteName name ++
        numbered (next + source.values.length) clauses.tail := by
  rw [fragments, List.append_assoc, numbered_append, clauses.numbered_head, clauses.values_head,
    List.cons_append, numbered_text, numbered_append, source.values_fragments, numbered_text,
    show " FROM (" = " FROM " ++ "(" from rfl]
  simp only [String.append_assoc, List.length_nil, Nat.add_zero]

end Daybook.Sql
