import Daybook.Proofs.Listing.Statement
import Daybook.Proofs.Sql.Numbering
import Mathlib.Algebra.Ring.Nat

/-!
# The text of a listing

The words of a filter, of a page and of a count.  Every filter that is let in is one condition, with
a placeholder for each value that it binds.
-/

namespace Daybook.Listing

open Sql (mark quoteName)

/-! ## Names of columns -/

theorem forall_mem_of_isColumnName {s : List Char} (h : isColumnName s) :
    ∀ c ∈ s, startsName c ∨ c.isDigit := by
  cases s with
  | nil => cases h
  | cons c s =>
    obtain ⟨hfirst, hrest⟩ := Bool.and_eq_true_iff.mp h
    intro d hd
    rcases List.mem_cons.mp hd with rfl | hmem
    · exact .inl hfirst
    · exact (Bool.or_eq_true _ _).mp (List.all_eq_true.mp hrest d hmem)

theorem quoteName_of_notMem {name : String} (h : '"' ∉ name.toList) :
    quoteName name = "\"" ++ name ++ "\"" := by
  have hsame : (name.toList.flatMap fun c => if c = '"' then ['"', '"'] else [c]) =
      name.toList.flatMap fun c => [c] :=
    List.flatMap_congr fun c hc => if_neg fun heq => h (by rwa [heq] at hc)
  rw [quoteName, hsame, List.flatMap_singleton', String.ofList_toList]

def columnText (name : String) : String := "\"p\".\"" ++ name ++ "\""

/-- Columns of the source are written with its name in front. -/
theorem text_sourceColumn {name : String} (h : isColumnName name.toList) :
    Sql.Column.text ⟨some sourceName, name⟩ = columnText name := by
  have hquote : '"' ∉ name.toList := fun hmem =>
    absurd (forall_mem_of_isColumnName h '"' hmem) (by decide)
  show quoteName sourceName ++ "." ++ quoteName name = columnText name
  rw [quoteName_of_notMem hquote, ← String.append_assoc, ← String.append_assoc]
  rfl

/-! ## Filters in words -/

def Operator.words : Operator → String
  | eq => "="
  | ne => "<>"
  | gt => ">"
  | lt => "<"
  | gte => ">="
  | lte => "<="
  | like => "LIKE"
  | ilike => "ILIKE"
  | anyOf => "IN"
  | noneOf => "NOT IN"

namespace Filter

/-- The values that a filter gives to the database: one, or each of a list.  An empty list is put as
a comparison of two numbers, which no row passes, or every row. -/
def boundValues (filter : Filter) : List Sql.Value :=
  match filter.operator, filter.values with
  | .anyOf, [] => [.int (some 1), .int (some 2)]
  | .noneOf, [] => [.int (some 1), .int (some 1)]
  | .anyOf, values | .noneOf, values => values.map FieldValue.sqlValue
  | .like, .text value :: _ | .ilike, .text value :: _ => [.string (some (containsPattern value))]
  | .like, _ | .ilike, _ => []
  | _, values => (values.take 1).map FieldValue.sqlValue

def width (filter : Filter) : Nat :=
  match filter.operator.isList, filter.values.length with
  | false, _ => 1
  | true, 0 => 2
  | true, count => count

def text (filter : Filter) (next : Nat) : String :=
  match filter.operator.isList, filter.values.length with
  | false, _ =>
    columnText (storageColumn filter.field) ++ " " ++ filter.operator.words ++ " " ++ mark next
  | true, 0 => mark next ++ " = " ++ mark (next + 1)
  | true, count =>
    columnText (storageColumn filter.field) ++ " " ++ filter.operator.words ++ " (" ++
      ", ".intercalate ((List.range' next count).map mark) ++ ")"

-- A filter in words as it stands beside others.
def conjunctText (filter : Filter) (next : Nat) : String :=
  if filter.operator = .ilike then "(" ++ filter.text next ++ ")" else filter.text next

def conjunctTexts (next : Nat) : List Filter → List String
  | [] => []
  | filter :: filters =>
    filter.conjunctText next :: conjunctTexts (next + filter.width) filters

end Filter

/-- What a statement says of the rows it keeps: that all of some filters hold, or nothing. -/
def whereText (next : Nat) : List Filter → String
  | [] => ""
  | [filter] => " WHERE " ++ filter.text next
  | filters => " WHERE " ++ " AND ".intercalate (Filter.conjunctTexts next filters)

/-! ## Conditions in words -/

namespace Filter

variable {filter : Filter} {condition : Sql.Condition}

/-- A filter becomes a condition just when its column has a name and its values do. -/
theorem condition_eq_ok_iff :
    filter.condition = .ok condition ↔ isColumnName (storageColumn filter.field).toList ∧
      filter.conditionOn ⟨some sourceName, storageColumn filter.field⟩ = .ok condition := by
  unfold Filter.condition sourceColumn
  by_cases hname : isColumnName (storageColumn filter.field).toList
  · rw [if_pos hname, and_iff_right hname]
    rfl
  · rw [if_neg hname]
    simp [Except.bind, hname]

/-- The condition of a filter: on the list of its values, or a comparison with the one that it
gives to the database. -/
inductive BecomesOn (filter : Filter) (column : Sql.Column) : Sql.Condition → Prop
  | anyOf (h : filter.operator = .anyOf) :
    BecomesOn filter column (.anyOf column (filter.values.map FieldValue.sqlValue))
  | noneOf (h : filter.operator = .noneOf) :
    BecomesOn filter column (.noneOf column (filter.values.map FieldValue.sqlValue))
  | compare {comparison : Sql.Comparison} {value : Sql.Value}
    (hlist : filter.operator.isList = false)
    (hwords : comparison.symbol = filter.operator.words)
    (hilike : comparison = .ilike ↔ filter.operator = .ilike)
    (hvalue : filter.boundValues = [value]) :
    BecomesOn filter column (.compare column comparison value)

theorem becomesOn_of_map {column : Sql.Column} {result : Except Sql.Fault Sql.Value}
    {comparison : Sql.Comparison} (hlist : filter.operator.isList = false)
    (hwords : comparison.symbol = filter.operator.words)
    (hilike : comparison = .ilike ↔ filter.operator = .ilike)
    (hvalue : ∀ value, result = .ok value → filter.boundValues = [value])
    (h : result.map (.compare column comparison) = .ok condition) :
    filter.BecomesOn column condition := by
  cases result with
  | error fault => cases h
  | ok value =>
    cases h
    exact .compare hlist hwords hilike (hvalue value rfl)

theorem boundValues_of_scalar {value : Sql.Value} (hlist : filter.operator.isList = false)
    (hpattern : filter.operator.isPattern = false) (h : filter.scalar = .ok value) :
    filter.boundValues = [value] := by
  obtain ⟨field, operator, values⟩ := filter
  cases values with
  | nil => cases h
  | cons first others =>
    cases h
    cases operator with
    | like | ilike => cases hpattern
    | anyOf | noneOf => cases hlist
    | _ => rfl

theorem boundValues_of_pattern {value : Sql.Value} (hpattern : filter.operator.isPattern)
    (h : filter.pattern = .ok value) : filter.boundValues = [value] := by
  obtain ⟨field, operator, values⟩ := filter
  cases values with
  | nil => cases h
  | cons first others =>
    cases first <;> cases h
    cases operator with
    | like | ilike => rfl
    | _ => cases hpattern

/-- A condition is made as the operator of its filter says. -/
theorem becomesOn_of_conditionOn {column : Sql.Column}
    (h : filter.conditionOn column = .ok condition) : filter.BecomesOn column condition := by
  unfold conditionOn at h
  cases hoperator : filter.operator with
  | anyOf =>
    rw [hoperator] at h
    cases h
    exact .anyOf hoperator
  | noneOf =>
    rw [hoperator] at h
    cases h
    exact .noneOf hoperator
  | like | ilike =>
    rw [hoperator] at h
    refine becomesOn_of_map ?_ ?_ ?_ (fun value => boundValues_of_pattern ?_) h <;>
      simp [hoperator, Operator.isList, Operator.isPattern, Operator.words, Sql.Comparison.symbol]
  | _ =>
    rw [hoperator] at h
    refine becomesOn_of_map ?_ ?_ ?_ (fun value => boundValues_of_scalar ?_ ?_) h <;>
      simp [hoperator, Operator.isList, Operator.isPattern, Operator.words, Sql.Comparison.symbol]

theorem values_of_becomesOn {column : Sql.Column} (h : filter.BecomesOn column condition) :
    condition.values = filter.boundValues := by
  cases h with
  | anyOf hoperator =>
    cases hvalues : filter.values <;> simp [Sql.Condition.values, boundValues, hoperator, hvalues]
  | noneOf hoperator =>
    cases hvalues : filter.values <;> simp [Sql.Condition.values, boundValues, hoperator, hvalues]
  | compare _ _ _ hvalue => rw [hvalue, Sql.Condition.values]

/-- A filter binds as many values as its width says. -/
theorem length_of_becomesOn {column : Sql.Column} (h : filter.BecomesOn column condition) :
    filter.boundValues.length = filter.width := by
  cases h with
  | anyOf hoperator =>
    cases hvalues : filter.values <;>
      simp [width, boundValues, hoperator, hvalues, Operator.isList]
  | noneOf hoperator =>
    cases hvalues : filter.values <;>
      simp [width, boundValues, hoperator, hvalues, Operator.isList]
  | compare hlist _ _ hvalue => rw [hvalue, width, hlist]; rfl

section Numbered

open Sql.Fragment

variable {next : Nat}

/-- A list is written with one mark for each value. -/
theorem numbered_listFragments (column : Sql.Column) (operator : String)
    (values : List Sql.Value) :
    numbered next (Sql.Condition.listFragments column operator values) =
      column.text ++ " " ++ operator ++ " (" ++
        ", ".intercalate ((List.range' next values.length).map mark) ++ ")" := by
  rw [Sql.Condition.listFragments, List.cons_append, numbered_text, numbered_append,
    numbered_joined, texts_map_parameter, numbered_text, numbered_nil, String.append_empty]
  exact String.append_assoc.symm

theorem numbered_numbersEqual (left right : Int32) :
    numbered next (Sql.Condition.numbersEqual left right) =
      mark next ++ " = " ++ mark (next + 1) := by
  rw [Sql.Condition.numbersEqual, numbered_parameter, numbered_text, numbered_parameter,
    numbered_nil, String.append_empty, String.append_assoc]

-- The words of a list operator, from the fragments of a list and those that stand for no list.
theorem text_of_list (hlist : filter.operator.isList)
    (hname : isColumnName (storageColumn filter.field).toList) (left right : Int32) :
    numbered next
        (match filter.values.map FieldValue.sqlValue with
        | [] => Sql.Condition.numbersEqual left right
        | values => Sql.Condition.listFragments ⟨some sourceName, storageColumn filter.field⟩
          filter.operator.words values) =
      filter.text next := by
  rw [text, hlist]
  cases hvalues : filter.values with
  | nil => exact numbered_numbersEqual left right
  | cons value values =>
    rw [List.map_cons]
    show numbered next (Sql.Condition.listFragments _ _ _) = _
    rw [numbered_listFragments, text_sourceColumn hname, List.length_cons, List.length_cons,
      List.length_map]
    rfl

/-- The text of a condition is that of its filter. -/
theorem numbered_of_becomesOn (hname : isColumnName (storageColumn filter.field).toList)
    (h : filter.BecomesOn ⟨some sourceName, storageColumn filter.field⟩ condition) :
    numbered next condition.fragments = filter.text next := by
  cases h with
  | anyOf hoperator =>
    rw [← text_of_list (by rw [hoperator]; rfl) hname 1 2, hoperator]
    cases filter.values <;> rfl
  | noneOf hoperator =>
    rw [← text_of_list (by rw [hoperator]; rfl) hname 1 1, hoperator]
    cases filter.values <;> rfl
  | compare hlist hwords _ hvalue =>
    rw [Sql.Condition.fragments, numbered_text, numbered_parameter, numbered_nil,
      String.append_empty, text_sourceColumn hname, hwords, text, hlist]

/-- Only the comparison without regard to case is put in parentheses. -/
theorem needsParentheses_of_becomesOn {column : Sql.Column}
    (h : filter.BecomesOn column condition) :
    condition.needsParentheses = decide (filter.operator = .ilike) := by
  cases h with
  | anyOf hoperator => rw [hoperator]; rfl
  | noneOf hoperator => rw [hoperator]; rfl
  | @compare comparison value _ _ hilike _ =>
    rw [← decide_eq_decide.mpr hilike]
    cases comparison <;> rfl

theorem numbered_conjunct (hname : isColumnName (storageColumn filter.field).toList)
    (h : filter.BecomesOn ⟨some sourceName, storageColumn filter.field⟩ condition) :
    numbered next condition.conjunct = filter.conjunctText next := by
  rw [Sql.Condition.conjunct, needsParentheses_of_becomesOn h, conjunctText]
  by_cases hoperator : filter.operator = .ilike
  · rw [decide_eq_true hoperator, if_pos rfl, if_pos hoperator, List.cons_append, numbered_text,
      numbered_append, numbered_of_becomesOn hname h, numbered_text, numbered_nil,
      String.append_empty, String.append_assoc]
  · rw [decide_eq_false hoperator, if_neg Bool.false_ne_true, if_neg hoperator,
      numbered_of_becomesOn hname h]

end Numbered

/-! ## Conditions of several filters -/

abbrev Become (filters : List Filter) (conditions : List Sql.Condition) : Prop :=
  List.Forall₂ (fun filter condition => filter.condition = .ok condition) filters conditions

variable {filters : List Filter} {conditions : List Sql.Condition}

theorem Become.values (h : Become filters conditions) :
    conditions.flatMap Sql.Condition.values = filters.flatMap boundValues := by
  induction h with
  | nil => rfl
  | cons hfilter _ ih =>
    have hbecomes := becomesOn_of_conditionOn (condition_eq_ok_iff.mp hfilter).2
    rw [List.flatMap_cons, List.flatMap_cons, ih, values_of_becomesOn hbecomes]

theorem Become.length_boundValues (h : Become filters conditions) :
    ∀ filter ∈ filters, filter.boundValues.length = filter.width := by
  induction h with
  | nil => simp
  | cons hfilter _ ih =>
    have hbecomes := becomesOn_of_conditionOn (condition_eq_ok_iff.mp hfilter).2
    exact List.forall_mem_cons.mpr ⟨length_of_becomesOn hbecomes, ih⟩

theorem Become.length_values (h : Become filters conditions) :
    (conditions.flatMap Sql.Condition.values).length = (filters.map width).sum := by
  rw [h.values, List.length_flatMap, List.map_congr_left h.length_boundValues]

open Sql.Fragment

/-- Each filter goes on with the number after the last one. -/
theorem Become.texts_conjuncts (h : Become filters conditions) (next : Nat) :
    texts next (conditions.map Sql.Condition.conjunct) = conjunctTexts next filters := by
  induction h generalizing next with
  | nil => rfl
  | cons hfilter _ ih =>
    obtain ⟨hname, hcondition⟩ := condition_eq_ok_iff.mp hfilter
    have hbecomes := becomesOn_of_conditionOn hcondition
    rw [List.map_cons, texts, ih, Sql.Condition.values_conjunct, values_of_becomesOn hbecomes,
      length_of_becomesOn hbecomes, numbered_conjunct hname hbecomes, conjunctTexts]

/-- The conditions of a statement say what the filters say. -/
theorem Become.numbered_where (h : Become filters conditions) (next : Nat) :
    numbered next (clause " WHERE " " AND " (Sql.Condition.conjunction conditions)) =
      whereText next filters := by
  have htexts := h.texts_conjuncts next
  cases h with
  | nil => rfl
  | cons hfirst hrest =>
    rw [numbered_clause _ _ _ (by cases hrest <;> exact List.cons_ne_nil _ _)]
    cases hrest with
    | nil =>
      obtain ⟨hname, hcondition⟩ := condition_eq_ok_iff.mp hfirst
      show " WHERE " ++ " AND ".intercalate (texts next [_]) = _
      rw [texts, texts, String.intercalate_singleton,
        numbered_of_becomesOn hname (becomesOn_of_conditionOn hcondition), whereText]
    | cons hsecond hrest => exact congrArg (" WHERE " ++ " AND ".intercalate ·) htexts

end Filter

/-! ## Statements in words -/

/-- The conditions of a listing are those of the filters that are allowed. -/
theorem Rules.conditions_eq_ok_iff {rules : Rules} {params : Params}
    {conditions : List Sql.Condition} :
    rules.conditions params = .ok conditions ↔
      Filter.Become (params.filters.filter rules.allow.admits) conditions :=
  mapM_eq_ok_iff

variable {rules : Rules} {params : Params} {source : Sql.Select}

-- A query on another one under the name that filters and sorts read it by.
theorem numbered_around (next : Nat) (source : Sql.Select) (clauses : Sql.Clauses) :
    Sql.Fragment.numbered next (Sql.Select.ofSelect source sourceName clauses).fragments =
      "SELECT " ++ ", ".intercalate (clauses.projections.map Sql.Projection.text) ++ " FROM (" ++
        Sql.Fragment.numbered next source.fragments ++ ") AS \"p\"" ++
        Sql.Fragment.numbered (next + source.values.length) clauses.tail := by
  have hname : ") AS \"p\"" = ") AS " ++ quoteName sourceName := rfl
  rw [Sql.Select.numbered_ofSelect, hname]
  simp only [String.append_assoc]

/-- The text of a count: the source in parentheses, and the filters after it. -/
theorem text_countOf {count : Sql.Select} (h : countOf rules params source = .ok count) :
    count.compile.sql =
      "SELECT COUNT(*) FROM (" ++ source.compile.sql ++ ") AS \"p\"" ++
        whereText (1 + source.values.length) (params.filters.filter rules.allow.admits) := by
  obtain ⟨conditions, hconditions, rfl⟩ := countOf_eq_ok_iff.mp h
  have hwhere := (Rules.conditions_eq_ok_iff.mp hconditions).numbered_where
  show Sql.Fragment.numbered 1 _ = _
  rw [numbered_around, Sql.Clauses.numbered_tail, hwhere]
  simp only [List.map_nil, String.join_nil, String.empty_append, Sql.orderText, Sql.rowsText,
    List.isEmpty_nil, Option.isSome_none, if_true, Bool.false_eq_true, if_false,
    String.append_empty]
  rfl

/-- The text of a page: the source in parentheses, the filters, the order, the limit and the offset.
-/
theorem text_pageOf {page : Sql.Select} (h : pageOf rules params source = .ok page) :
    let filters := params.filters.filter rules.allow.admits
    let next := 1 + source.values.length + (filters.map Filter.width).sum
    page.compile.sql =
      "SELECT \"p\".* FROM (" ++ source.compile.sql ++ ") AS \"p\"" ++
        whereText (1 + source.values.length) filters ++ Sql.orderText (rules.terms params) ++
        " LIMIT " ++ mark next ++ " OFFSET " ++ mark (next + 1) := by
  obtain ⟨conditions, order, hconditions, horder, rfl⟩ := pageOf_eq_ok_iff.mp h
  obtain ⟨_, rfl⟩ := Rules.order_eq_ok_iff.mp horder
  have hbecome := Rules.conditions_eq_ok_iff.mp hconditions
  show Sql.Fragment.numbered 1 _ = _
  rw [numbered_around, Sql.Clauses.numbered_tail, hbecome.numbered_where, hbecome.length_values]
  simp only [List.map_nil, String.join_nil, String.empty_append, Sql.rowsText, Option.isSome_some,
    if_true, ← String.append_assoc]
  rfl

end Daybook.Listing
