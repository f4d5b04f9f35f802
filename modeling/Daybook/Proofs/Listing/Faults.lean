import Daybook.Proofs.Listing.Text

/-!
# Why a listing statement is refused

Parameters need not come from an intake, and the rules of a resource need not suit it.  What is
wrong with them is listed here in the order in which it is met; a statement is refused with the
first of it, and built if there is nothing.
-/

namespace Daybook.Listing

open Sql (Fault)

/-! ## Names of columns -/

def IsNameStart (c : Char) : Prop := 'a' ≤ c ∧ c ≤ 'z' ∨ c = '_'

/-- A name that a column can have: small ASCII letters, underscores and digits, of which the first
is no digit. -/
def IsColumnName (name : String) : Prop :=
  ∃ c s, name.toList = c :: s ∧ IsNameStart c ∧
    ∀ d ∈ s, IsNameStart d ∨ '0' ≤ d ∧ d ≤ '9'

theorem startsName_iff {c : Char} : startsName c ↔ IsNameStart c := by
  have hlower : c.isLower = (decide ('a' ≤ c) && decide (c ≤ 'z')) := rfl
  simp only [startsName, IsNameStart, hlower, Bool.or_eq_true, Bool.and_eq_true, decide_eq_true_eq,
    beq_iff_eq]

theorem isDigit_iff_le {c : Char} : c.isDigit ↔ '0' ≤ c ∧ c ≤ '9' := by
  simp [Char.isDigit, Char.le_def, UInt32.le_iff_toNat_le]

/-- What the check of a name accepts is what the rule for names says. -/
theorem isColumnName_iff {name : String} : isColumnName name.toList ↔ IsColumnName name := by
  unfold IsColumnName
  cases name.toList with
  | nil => simp [isColumnName]
  | cons c s =>
    rw [isColumnName, Bool.and_eq_true, List.all_eq_true]
    simp only [Bool.or_eq_true, startsName_iff, isDigit_iff_le]
    constructor
    · rintro ⟨hfirst, hrest⟩
      exact ⟨c, s, rfl, hfirst, hrest⟩
    · rintro ⟨_, _, ⟨⟩, hfirst, hrest⟩
      exact ⟨hfirst, hrest⟩

instance (name : String) : Decidable (IsColumnName name) := decidable_of_iff _ isColumnName_iff

def nameFaults (name : String) : List Fault :=
  if IsColumnName name then [] else [.invalidIdentifier name]

theorem failsFirst_sourceColumn (name : String) :
    FailsFirst (sourceColumn name) (nameFaults name) := by
  rw [sourceColumn, nameFaults]
  by_cases hname : IsColumnName name
  · rw [if_pos hname, if_pos (isColumnName_iff.mpr hname)]
    exact .ok _
  · rw [if_neg hname, if_neg (mt isColumnName_iff.mp hname)]
    exact .error _ _

/-! ## Filters -/

namespace Filter

/-- The fault of the values of a filter: most operators need one, and a pattern is a text. -/
def valueFaults (filter : Filter) : List Fault :=
  match filter.operator.isList, filter.values with
  | true, _ => []
  | false, [] => [.missingValue filter.field]
  | false, value :: _ =>
    if filter.operator.isPattern ∧ value.kind ≠ .text then [.patternOnNonText filter.field] else []

def faults (filter : Filter) : List Fault :=
  nameFaults (storageColumn filter.field) ++ filter.valueFaults

variable {filter : Filter}

/-- A comparison needs one value, and one that can be bound. -/
theorem failsFirst_scalar (hlist : filter.operator.isList = false)
    (hpattern : filter.operator.isPattern = false) :
    FailsFirst filter.scalar filter.valueFaults := by
  rw [scalar, valueFaults, hlist, hpattern]
  cases filter.values with
  | nil => exact .error _ _
  | cons value values => exact .ok _

theorem failsFirst_pattern (hlist : filter.operator.isList = false)
    (hpattern : filter.operator.isPattern) :
    FailsFirst filter.pattern filter.valueFaults := by
  rw [pattern, valueFaults, hlist, hpattern]
  cases filter.values with
  | nil => exact .error _ _
  | cons value values =>
    cases value with
    | text value => exact .ok _
    | _ => exact .error _ _

theorem failsFirst_conditionOn (column : Sql.Column) :
    FailsFirst (filter.conditionOn column) filter.valueFaults := by
  rw [conditionOn]
  cases hoperator : filter.operator with
  | anyOf | noneOf =>
    rw [valueFaults, hoperator]
    exact .ok _
  | like | ilike =>
    apply FailsFirst.map
    apply failsFirst_pattern <;> rw [hoperator] <;> rfl
  | _ =>
    apply FailsFirst.map
    apply failsFirst_scalar <;> rw [hoperator] <;> rfl

/-- The name of a filter is checked before its values. -/
theorem failsFirst_condition (filter : Filter) : FailsFirst filter.condition filter.faults :=
  (failsFirst_sourceColumn _).bind fun column _ => failsFirst_conditionOn column

-- All that a filter gives to the database can be bound.
theorem faults_of_mem_boundValues {value : Sql.Value} (h : value ∈ filter.boundValues) :
    value.faults = [] := by
  have hread : ∀ values : List FieldValue, ∀ value ∈ values.map FieldValue.sqlValue,
      value.faults = [] := by
    intro values value hvalue
    obtain ⟨read, -, rfl⟩ := List.mem_map.mp hvalue
    cases read <;> rfl
  unfold boundValues at h
  split at h
  case h_1 | h_2 =>
    rw [List.mem_pair] at h
    rcases h with rfl | rfl <;> rfl
  case h_3 | h_4 | h_9 => exact hread _ value h
  case h_5 | h_6 =>
    rw [List.mem_singleton.mp h]
    rfl
  case h_7 | h_8 => cases h

end Filter

/-! ## Statements -/

namespace Rules

variable (rules : Rules) (params : Params)

def filterFaults : List Fault :=
  (rules.allow.restrict params).filters.flatMap Filter.faults

def orderFaults : List Fault :=
  (rules.allow.restrict params).sorts.flatMap (fun sort => nameFaults (storageColumn sort.field)) ++
    ((if rules.defaultOrder = [] then [.missingDefaultOrder] else []) ++
      rules.defaultOrder.flatMap fun key => nameFaults key.column)

/-- All that is wrong with a page, as it is met: the admitted filters come first, then the admitted
sorts, and the default ordering last. -/
def pageFaults : List Fault :=
  rules.filterFaults params ++ rules.orderFaults params

variable {rules} {params}

theorem failsFirst_conditions : FailsFirst (rules.conditions params) (rules.filterFaults params) :=
  .mapM fun filter _ => filter.failsFirst_condition

theorem failsFirst_defaultTerms : FailsFirst rules.defaultTerms
    ((if rules.defaultOrder = [] then [.missingDefaultOrder] else []) ++
      rules.defaultOrder.flatMap fun key => nameFaults key.column) := by
  rw [defaultTerms]
  cases hkeys : rules.defaultOrder with
  | nil => exact .error _ _
  | cons key keys =>
    rw [if_neg (List.cons_ne_nil key keys), List.nil_append]
    exact .mapM fun key _ => (failsFirst_sourceColumn key.column).map

/-- Sorts are checked one after the other, and then the default order. -/
theorem failsFirst_order : FailsFirst (rules.order params) (rules.orderFaults params) := by
  refine FailsFirst.bind (.mapM fun sort _ => (failsFirst_sourceColumn _).map) fun chosen _ => ?_
  exact failsFirst_defaultTerms.bind_pure (chosen ++ ·)

end Rules

variable {rules : Rules} {params : Params} {source : Sql.Select}

/-- A page fails by its filters before it does by its order. -/
theorem failsFirst_pageOf : FailsFirst (pageOf rules params source) (rules.pageFaults params) :=
  Rules.failsFirst_conditions.bind fun _ _ => Rules.failsFirst_order.bind_pure _

/-- A count fails by its filters only. -/
theorem failsFirst_countOf : FailsFirst (countOf rules params source) (rules.filterFaults params) :=
  Rules.failsFirst_conditions.bind_pure _

/-! ## Columns and values of what is built -/

def IsSourceColumn (column : Sql.Column) : Prop :=
  column.relation = some sourceName ∧ IsColumnName column.name

theorem Filter.Become.isSourceColumn {filters : List Filter} {conditions : List Sql.Condition}
    (h : Become filters conditions) :
    ∀ condition ∈ conditions, IsSourceColumn condition.column := by
  induction h with
  | nil => simp
  | cons hfirst _ ih =>
    obtain ⟨hname, hcondition⟩ := condition_eq_ok_iff.mp hfirst
    refine List.forall_mem_cons.mpr ⟨?_, ih⟩
    cases becomesOn_of_conditionOn hcondition <;> exact ⟨rfl, isColumnName_iff.mp hname⟩

theorem Rules.isSourceColumn_of_mem_terms {order : List Sql.OrderTerm}
    (h : rules.order params = .ok order) : ∀ term ∈ order, IsSourceColumn term.column := by
  obtain ⟨⟨hsorts, -, hkeys⟩, rfl⟩ := order_eq_ok_iff.mp h
  intro term hterm
  rcases List.mem_append.mp hterm with hsort | hkey
  · obtain ⟨sort, hmem, rfl⟩ := List.mem_map.mp hsort
    exact ⟨rfl, isColumnName_iff.mp (hsorts sort hmem)⟩
  · obtain ⟨key, hmem, rfl⟩ := List.mem_map.mp hkey
    exact ⟨rfl, isColumnName_iff.mp (hkeys key hmem)⟩

/-- Columns of a page are named as the rule says, whether they come from a filter or the order. -/
theorem isSourceColumn_of_pageOf {page : Sql.Select} (h : pageOf rules params source = .ok page) :
    ∀ column ∈ page.clauses.columns, IsSourceColumn column := by
  obtain ⟨conditions, order, hconditions, horder, rfl⟩ := pageOf_eq_ok_iff.mp h
  refine List.forall_mem_append.mpr ⟨?_, ?_⟩
  · exact List.forall_mem_map.mpr (Rules.conditions_eq_ok_iff.mp hconditions).isSourceColumn
  · exact List.forall_mem_map.mpr (Rules.isSourceColumn_of_mem_terms horder)

theorem isSourceColumn_of_countOf {count : Sql.Select}
    (h : countOf rules params source = .ok count) :
    ∀ column ∈ count.clauses.columns, IsSourceColumn column := by
  obtain ⟨conditions, hconditions, rfl⟩ := countOf_eq_ok_iff.mp h
  refine List.forall_mem_append.mpr ⟨?_, nofun⟩
  exact List.forall_mem_map.mpr (Rules.conditions_eq_ok_iff.mp hconditions).isSourceColumn

-- Of what a page adds to its source, only the numbers of rows may not be bound.
theorem faults_values_pageOf {page : Sql.Select} (h : pageOf rules params source = .ok page)
    (hsource : source.values = []) :
    page.compile.values.flatMap Sql.Value.faults =
      Sql.rangeFaults params.limit ++ Sql.rangeFaults params.offset := by
  obtain ⟨conditions, order, hconditions, horder, rfl⟩ := pageOf_eq_ok_iff.mp h
  have hbound : (conditions.flatMap Sql.Condition.values).flatMap Sql.Value.faults = [] := by
    rw [(Rules.conditions_eq_ok_iff.mp hconditions).values, List.flatMap_eq_nil_iff]
    intro value hvalue
    obtain ⟨filter, -, hmem⟩ := List.mem_flatMap.mp hvalue
    exact Filter.faults_of_mem_boundValues hmem
  rw [Sql.Select.values_compile, Sql.Select.values, hsource, List.nil_append, Sql.Clauses.values,
    List.flatMap_append, List.flatMap_append, hbound]
  simp [Sql.Value.faults]

/-- A page is refused with the first thing that is wrong with its admitted filters, its admitted
sorts and the default ordering, in this order, and a count with the first thing that is wrong with
its filters; where nothing is wrong they are built.  What is built names columns of the source only,
by names that a column can have.  Where the source itself binds no values, those of a page are bound
unless its limit or else its offset does not fit. -/
theorem statements_fail_first (rules : Rules) (params : Params) {source : Sql.Select}
    (hsource : source.values = []) :
    FailsFirst (pageOf rules params source) (rules.pageFaults params) ∧
      FailsFirst (countOf rules params source) (rules.filterFaults params) ∧
      (∀ statement, pageOf rules params source = .ok statement ∨
          countOf rules params source = .ok statement →
        ∀ column ∈ statement.clauses.columns, IsSourceColumn column) ∧
      ∀ page, pageOf rules params source = .ok page →
        FailsFirst (Sql.arguments page.compile.values)
          (Sql.rangeFaults params.limit ++ Sql.rangeFaults params.offset) := by
  refine ⟨failsFirst_pageOf, failsFirst_countOf, fun statement hbuilt => ?_, fun page hpage => ?_⟩
  · rcases hbuilt with hpage | hcount
    · exact isSourceColumn_of_pageOf hpage
    · exact isSourceColumn_of_countOf hcount
  · rw [← faults_values_pageOf hpage hsource]
    exact Sql.failsFirst_arguments page.compile.values

-- Patterns on numbers, and names that no column can have, which end in a line break or have an
-- accent.
def oddRules (defaultOrder : List OrderKey) : Rules where
  allow := {
    filters := [⟨"size", [.like], .integer⟩, ⟨"name", [.eq], .text⟩, ⟨"état", [.anyOf], .text⟩]
    sorts := ["id\n"] }
  defaultOrder

def oddParams : Params where
  filters := [⟨"owner", .eq, []⟩, ⟨"name", .like, []⟩, ⟨"size", .like, [.integer 3]⟩,
    ⟨"name", .eq, []⟩, ⟨"état", .anyOf, []⟩]
  sorts := [⟨"b-c", .asc⟩, ⟨"id\n", .desc⟩]

/-- What is not admitted is passed over with all that is wrong with it.  Of two numbers of rows that
do not fit, the limit is the one that is told. -/
theorem statements_fail_first_of_odd_names :
    let people : Sql.Select := .ofTable "people" { projections := [.plain ⟨none, "id"⟩] }
    let far := Sql.largestBigInt + 1
    people.values = [] ∧
      FailsFirst (pageOf (oddRules []) oddParams people)
        [.patternOnNonText "size", .missingValue "name", .invalidIdentifier "état",
          .invalidIdentifier "id\n", .missingDefaultOrder] ∧
      FailsFirst (countOf (oddRules []) oddParams people)
        [.patternOnNonText "size", .missingValue "name", .invalidIdentifier "état"] ∧
      FailsFirst (pageOf (oddRules [⟨"2d", .asc⟩]) {} people) [.invalidIdentifier "2d"] ∧
      ∃ page, pageOf (oddRules [⟨"id", .asc⟩]) { limit := far, offset := far + 1 } people =
          .ok page ∧
        FailsFirst (Sql.arguments page.compile.values)
          [.outOfRange "parameter" far, .outOfRange "parameter" (far + 1)] := by
  intro people far
  have hsource : people.values = [] := rfl
  obtain ⟨hpage, hcount, -, -⟩ := statements_fail_first (oddRules []) oddParams hsource
  obtain ⟨hkey, -, -, -⟩ := statements_fail_first (oddRules [⟨"2d", .asc⟩]) {} hsource
  obtain ⟨-, -, -, hbound⟩ := statements_fail_first (oddRules [⟨"id", .asc⟩])
    { limit := far, offset := far + 1 } hsource
  refine ⟨hsource, hpage, hcount, hkey, _, rfl, hbound _ rfl⟩

end Daybook.Listing
