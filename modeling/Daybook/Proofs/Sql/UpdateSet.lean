import Daybook.Proofs.Sql.Numbering
import Daybook.Sql.Statement
import Daybook.Text.Split

/-!
# Updates and update sets

The text and the values of an update, and the update that a set of assignments becomes.
-/

namespace Daybook.Sql

open Fragment

/-! ## The text of an update

An update assigns its columns in order, each to the next placeholder, and names its rows by the
placeholder after them.
-/

def assignmentTexts (next : Nat) (columns : List String) : List String :=
  (columns.zipIdx next).map fun (column, number) => quoteName column ++ " = " ++ mark number

def updateText (table : String) (columns : List String) (keyColumn : String) : String :=
  "UPDATE " ++ quoteName table ++ " SET " ++ ", ".intercalate (assignmentTexts 1 columns) ++
    " WHERE " ++ quoteName keyColumn ++ " = " ++ mark (columns.length + 1)

namespace Update

def rows (assignments : List (String × Value)) : List (List Fragment) :=
  assignments.map fun (column, value) => [.text (quoteName column ++ " = "), .parameter value]

theorem values_rows (assignments : List (String × Value)) :
    (rows assignments).flatMap Fragment.values = assignments.map Prod.snd := by
  induction assignments with
  | nil => rfl
  | cons assignment assignments ih => rw [rows, List.map_cons, List.flatMap_cons, ← rows, ih]; rfl

theorem texts_rows (next : Nat) (assignments : List (String × Value)) :
    texts next (rows assignments) = assignmentTexts next (assignments.map Prod.fst) := by
  induction assignments generalizing next with
  | nil => rfl
  | cons assignment assignments ih =>
    rw [rows, List.map_cons, texts, ← rows, ih, numbered_text, numbered_parameter, numbered_nil,
      String.append_empty]
    rfl

/-- The key is bound after all assigned values. -/
theorem values_compile (update : Update) :
    update.compile.values = update.assignments.map Prod.snd ++ [.bigInt (some update.key)] := by
  show Fragment.values update.fragments = _
  rw [fragments, ← rows, List.cons_append, values_text, values_append, values_joined, values_rows]
  rfl

/-- The text of an update depends on the names of the columns only. -/
theorem sql_compile (update : Update) :
    update.compile.sql =
      updateText update.table (update.assignments.map Prod.fst) update.keyColumn := by
  show numbered 1 update.fragments = _
  rw [fragments, ← rows, List.cons_append, numbered_text, numbered_append, numbered_joined,
    texts_rows, values_joined, values_rows, numbered_text, numbered_parameter, numbered_nil,
    String.append_empty, updateText, List.length_map, List.length_map, Nat.add_comm 1]
  simp only [String.append_assoc]

theorem compile_eq (update : Update) :
    update.compile = {
      sql := updateText update.table (update.assignments.map Prod.fst) update.keyColumn
      values := update.assignments.map Prod.snd ++ [.bigInt (some update.key)] } := by
  rw [← sql_compile, ← values_compile]

end Update

/-! ## What an update set becomes

Columns are set one after another, and those without a value are passed over.  The update that comes
of it assigns exactly the others, in the order in which they were set, and its text tells nothing of
the values.
-/

/-! ### Names in quotes -/

def doubled (name : String) : String :=
  .ofList (['"', '"'].intercalate (Text.pieces '"' name.toList))

theorem intercalate_pieces_quotes (s : List Char) :
    ['"', '"'].intercalate (Text.pieces '"' s) =
      s.flatMap fun c => if c = '"' then ['"', '"'] else [c] := by
  induction s with
  | nil => rfl
  | cons c s ih =>
    obtain ⟨piece, pieces, hpieces⟩ := List.exists_cons_of_ne_nil (Text.pieces_ne_nil '"' s)
    rw [Text.pieces, List.flatMap_cons, ← ih, hpieces]
    by_cases hquote : c = '"'
    · rw [if_pos hquote, if_pos hquote, List.intercalate_cons_cons]
      rfl
    · rw [if_neg hquote, if_neg hquote]
      cases pieces with
      | nil => rw [List.intercalate_singleton, List.intercalate_singleton]; rfl
      | cons second rest => rw [List.intercalate_cons_cons, List.intercalate_cons_cons]; rfl

/-- Quotes within a name are doubled. -/
theorem quoteName_eq (name : String) : quoteName name = "\"" ++ doubled name ++ "\"" := by
  rw [quoteName, doubled, intercalate_pieces_quotes]

/-! ### Setting columns -/

namespace UpdateSet

/-- Sets columns one after another, each to a value or to none. -/
def setAll (updates : UpdateSet) (calls : List (String × Option Value)) : UpdateSet :=
  calls.foldl (fun updates call => updates.set call.1 call.2) updates

/-- The columns that are set to a value, in order and as often as they are, with the values. -/
def present (calls : List (String × Option Value)) : List (String × Value) :=
  calls.filterMap fun call => call.2.map fun value => (call.1, value)

variable (updates : UpdateSet) (calls : List (String × Option Value))

/-- Calls add their assignments in order, and those without a value add none. -/
theorem setAll_eq : updates.setAll calls =
    { updates with assignments := updates.assignments ++ present calls } := by
  induction calls generalizing updates with
  | nil => simp [setAll, present]
  | cons call calls ih =>
    obtain ⟨column, value⟩ := call
    show (updates.set column value).setAll calls = _
    rw [ih]
    cases value with
    | none => rfl
    | some value => simp [set, present]

theorem present_eq_nil_iff : present calls = [] ↔ ∀ call ∈ calls, call.2 = none := by
  rw [present, List.filterMap_eq_nil_iff]
  simp only [Option.map_eq_none_iff]

-- The columns are told by which calls have a value, whatever it is.
theorem map_fst_present : (present calls).map Prod.fst =
    (calls.map fun call => (call.1, call.2.isSome)).filterMap fun (column, isSet) =>
      if isSet then some column else none := by
  induction calls with
  | nil => rfl
  | cons call calls ih =>
    obtain ⟨column, value⟩ := call
    rw [List.map_cons, List.filterMap_cons, ← ih, present, List.filterMap_cons]
    cases value <;> rfl

variable {updates} {calls}

/-- There is a statement just when there is something to assign. -/
theorem map_sql_statement? (keyColumn : String) (key : Int64) :
    (updates.statement? keyColumn key).map (fun update => update.compile.sql) =
      if updates.columns = [] then none
      else some (updateText updates.table updates.columns keyColumn) := by
  unfold statement? isEmpty columns
  cases hassignments : updates.assignments with
  | nil => rfl
  | cons assignment assignments =>
    rw [List.isEmpty_cons, if_neg Bool.false_ne_true, List.map_cons, if_neg (List.cons_ne_nil _ _),
      Option.map_some, Update.sql_compile, ← List.map_cons, ← hassignments]

/-- Update of the columns that are set: there is none exactly where no column is set to a value.
Otherwise it assigns those that are, in order, each to the next placeholder, and names its rows by
the placeholder after them; the values go with the placeholders, the key last.  Its text is the same
for all values and keys. -/
theorem update_of_calls (table keyColumn : String) (key : Int64)
    (calls : List (String × Option Value)) :
    let updates : UpdateSet := UpdateSet.setAll { table } calls
    (updates.statement? keyColumn key = none ↔ updates.isEmpty) ∧
      (updates.isEmpty ↔ ∀ call ∈ calls, call.2 = none) ∧
      updates.columns = (present calls).map Prod.fst ∧
      (∀ update ∈ updates.statement? keyColumn key,
        update.compile.sql = "UPDATE " ++ quoteName table ++ " SET " ++
            ", ".intercalate ((updates.columns.zipIdx 1).map fun (column, number) =>
              quoteName column ++ " = " ++ mark number) ++
            " WHERE " ++ quoteName keyColumn ++ " = " ++ mark (updates.columns.length + 1) ∧
          update.compile.values = (present calls).map Prod.snd ++ [.bigInt (some key)]) ∧
      (∀ name, quoteName name = "\"" ++ doubled name ++ "\"") ∧
      ∀ others otherKey,
        others.map (fun call : String × Option Value => (call.1, call.2.isSome)) =
          calls.map (fun call => (call.1, call.2.isSome)) →
        ((UpdateSet.setAll { table } others).statement? keyColumn otherKey).map
            (fun update => update.compile.sql) =
          (updates.statement? keyColumn key).map fun update => update.compile.sql := by
  intro updates
  -- Everything is told of the calls that have a value.
  have hassignments : updates.assignments = present calls := by
    show (UpdateSet.setAll { table } calls).assignments = _
    rw [setAll_eq]
    rfl
  have hcolumns (others : List (String × Option Value)) :
      (UpdateSet.setAll { table } others).columns = (present others).map Prod.fst := by
    rw [setAll_eq]
    rfl
  have htable (others : List (String × Option Value)) :
      (UpdateSet.setAll { table } others).table = table := by
    rw [setAll_eq]
  refine ⟨?_, ?_, hcolumns calls, fun update hupdate => ?_, quoteName_eq,
    fun others otherKey h => ?_⟩
  · rw [statement?]
    cases updates.isEmpty <;> simp
  · rw [isEmpty, hassignments, List.isEmpty_iff, present_eq_nil_iff]
  · rw [statement?] at hupdate
    split at hupdate
    · cases hupdate
    · cases hupdate
      refine ⟨?_, ?_⟩
      · rw [Update.sql_compile, htable calls]
        rfl
      · rw [Update.values_compile, hassignments]
  · rw [map_sql_statement?, map_sql_statement?, hcolumns, htable, hcolumns, htable,
      map_fst_present others, map_fst_present calls, h]

/-- A column may be set twice, or to NULL, and one without a value takes no placeholder. -/
theorem update_of_repeated_calls :
    let calls := [("name", some (.string (some "Net"))), ("days", none),
      ("due \"date\"", some (.date none)), ("name", some (.string (some "$9")))]
    ∃ update : Update, (UpdateSet.setAll ⟨"terms", []⟩ calls).statement? "id" 7 = some update ∧
      update.compile.sql = "UPDATE \"terms\" SET \"name\" = $1, \"due \"\"date\"\"\" = $2, " ++
        "\"name\" = $3 WHERE \"id\" = $4" ∧
      update.compile.values =
        [.string (some "Net"), .date none, .string (some "$9"), .bigInt (some 7)] := by
  intro calls
  obtain ⟨-, -, hcolumns, hupdate, -, -⟩ := update_of_calls "terms" "id" 7 calls
  obtain ⟨update, hsome⟩ : ∃ update,
      (UpdateSet.setAll ⟨"terms", []⟩ calls).statement? "id" 7 = some update := ⟨_, rfl⟩
  obtain ⟨hsql, hvalues⟩ := hupdate update hsome
  refine ⟨update, hsome, ?_, hvalues⟩
  rw [hsql, hcolumns]
  decide +kernel

end UpdateSet

end Daybook.Sql
