import Daybook.Proofs.Listing.Text
import Daybook.Proofs.Resource.Binding
import Daybook.Proofs.Sql.Placeholders

/-!
# Page and count in step

The page and the count of a listing keep the same rows, with the same words and the same values.
The page is asked for two more numbers, after these: how many rows, and from where.
-/

namespace Daybook.Resource

open Listing
open Sql (Unmarked mark orderText unmarked_append unmarked_cons unmarked_flatMap)

/-! ## Names in a listing -/

/-- A column that may be asked for cannot look like a placeholder. -/
theorem dollar_notMem_of_isColumnName {name : String} (h : isColumnName name.toList) :
    '$' ∉ name.toList := fun hmem =>
  absurd (forall_mem_of_isColumnName h '$' hmem) (by decide)

theorem unmarked_sourceColumn {name : String} (h : isColumnName name.toList) :
    Unmarked (Sql.Column.names ⟨some sourceName, name⟩) :=
  unmarked_cons.mpr ⟨by decide, List.forall_mem_singleton.mpr (dollar_notMem_of_isColumnName h)⟩

theorem unmarked_of_condition {filter : Filter} {condition : Sql.Condition}
    (h : filter.condition = .ok condition) : Unmarked condition.column.names := by
  obtain ⟨hname, hcondition⟩ := Filter.condition_eq_ok_iff.mp h
  have hcolumn := unmarked_sourceColumn hname
  cases Filter.becomesOn_of_conditionOn hcondition <;> exact hcolumn

/-- The columns of conditions cannot look like placeholders. -/
theorem unmarked_of_conditions {filters : List Filter} {conditions : List Sql.Condition}
    (h : Filter.Become filters conditions) :
    ∀ condition ∈ conditions, Unmarked condition.column.names := by
  induction h with
  | nil => simp
  | cons hfilter _ ih => exact List.forall_mem_cons.mpr ⟨unmarked_of_condition hfilter, ih⟩

theorem unmarked_of_order {rules : Rules} {params : Params} {order : List Sql.OrderTerm}
    (h : rules.order params = .ok order) : ∀ term ∈ order, Unmarked term.column.names := by
  obtain ⟨⟨hsorts, _, hdefaults⟩, rfl⟩ := Rules.order_eq_ok_iff.mp h
  intro term hterm
  rcases List.mem_append.mp hterm with hsort | hdefault
  · obtain ⟨sort, hmem, rfl⟩ := List.mem_map.mp hsort
    exact unmarked_sourceColumn (hsorts sort hmem)
  · obtain ⟨key, hmem, rfl⟩ := List.mem_map.mp hdefault
    exact unmarked_sourceColumn (hdefaults key hmem)

/-- A statement around an unmarked one is unmarked if what it adds is. -/
theorem unmarked_ofSelect {source : Sql.Select} (hsource : Unmarked source.names)
    {clauses : Sql.Clauses} (hclauses : Unmarked clauses.names) :
    Unmarked (Sql.Select.ofSelect source sourceName clauses).names :=
  unmarked_cons.mpr ⟨by decide, unmarked_append.mpr ⟨hsource, hclauses⟩⟩

namespace Kind

theorem unmarked_source (kind : Kind) : Unmarked kind.resource.source.names := by
  unfold Unmarked
  cases kind <;> decide +kernel

/-- The joined tables of each kind are named without the sign of a placeholder. -/
theorem unmarked_children (kind : Kind) :
    (∀ projection ∈ kind.resource.childColumns, ∀ name ∈ projection.names, '$' ∉ name.toList) ∧
    (∀ join ∈ kind.resource.childJoins, ∀ name ∈ join.names, '$' ∉ name.toList) ∧
    ∀ term ∈ kind.resource.childOrder, ∀ name ∈ term.column.names, '$' ∉ name.toList := by
  cases kind <;> decide +kernel

variable {kind : Kind} {params : Params} {page rows count : Sql.Select}

theorem unmarked_page (h : pageOf kind.resource.rules params kind.resource.source = .ok page) :
    Unmarked page.names := by
  obtain ⟨conditions, order, hconditions, horder, rfl⟩ := pageOf_eq_ok_iff.mp h
  apply unmarked_ofSelect kind.unmarked_source
  simp only [Sql.Clauses.names, unmarked_append, unmarked_flatMap]
  refine ⟨⟨⟨List.forall_mem_singleton.mpr ?_, by simp⟩, ?_⟩, unmarked_of_order horder⟩
  · exact List.forall_mem_singleton.mpr (by decide)
  · exact unmarked_of_conditions (Rules.conditions_eq_ok_iff.mp hconditions)

theorem unmarked_count (h : countOf kind.resource.rules params kind.resource.source = .ok count) :
    Unmarked count.names := by
  obtain ⟨conditions, hconditions, rfl⟩ := countOf_eq_ok_iff.mp h
  apply unmarked_ofSelect kind.unmarked_source
  simp only [Sql.Clauses.names, unmarked_append, unmarked_flatMap]
  refine ⟨⟨⟨List.forall_mem_singleton.mpr ?_, by simp⟩, ?_⟩, by simp⟩
  · exact List.forall_mem_nil _
  · exact unmarked_of_conditions (Rules.conditions_eq_ok_iff.mp hconditions)

/-- The joined statement has no sign of a placeholder but its own. -/
theorem unmarked_rows (hpage : Unmarked page.names)
    (h : kind.resource.joinedRows params page = .ok rows) : Unmarked rows.names := by
  obtain ⟨hcolumns, hjoins, hchildren⟩ := kind.unmarked_children
  obtain ⟨order, horder, rfl⟩ := joinedRows_eq_ok_iff.mp h
  apply unmarked_ofSelect hpage
  simp only [Sql.Clauses.names, unmarked_append, unmarked_flatMap]
  refine ⟨⟨⟨List.forall_mem_cons.mpr ⟨?_, hcolumns⟩, hjoins⟩, by simp⟩, ?_⟩
  · exact List.forall_mem_singleton.mpr (by decide)
  · exact List.forall_mem_append.mpr ⟨unmarked_of_order horder, hchildren⟩

/-! ## Text and values of a listing -/

theorem values_source (kind : Kind) : kind.resource.source.values = [] := by
  cases kind <;> rfl

/-- A count binds the values of its filters. -/
theorem values_count (h : countOf kind.resource.rules params kind.resource.source = .ok count) :
    count.compile.values =
      (params.filters.filter kind.resource.rules.allow.admits).flatMap Filter.boundValues := by
  obtain ⟨conditions, hconditions, rfl⟩ := countOf_eq_ok_iff.mp h
  rw [Sql.Select.values_compile, Sql.Select.values, kind.values_source, Sql.Clauses.values,
    (Rules.conditions_eq_ok_iff.mp hconditions).values]
  simp

/-- The rows bind those of the page, which come first: joining adds none. -/
theorem values_rows (hpage : pageOf kind.resource.rules params kind.resource.source = .ok page)
    (h : kind.resource.joinedRows params page = .ok rows) :
    rows.compile.values =
      (params.filters.filter kind.resource.rules.allow.admits).flatMap Filter.boundValues ++
        [.bigUnsigned (some params.limit), .bigUnsigned (some params.offset)] := by
  obtain ⟨conditions, _, hconditions, _, rfl⟩ := pageOf_eq_ok_iff.mp hpage
  obtain ⟨_, _, rfl⟩ := joinedRows_eq_ok_iff.mp h
  rw [Sql.Select.values_compile, Sql.Select.values, Sql.Select.values, kind.values_source,
    Sql.Clauses.values, Sql.Clauses.values, (Rules.conditions_eq_ok_iff.mp hconditions).values]
  simp

/-- The joined statement has the page inside, and sorts by the page's order before its own. -/
theorem text_rows (h : kind.resource.joinedRows params page = .ok rows) :
    rows.compile.sql =
      "SELECT " ++ ", ".intercalate
        ((.every sourceName :: kind.resource.childColumns).map Sql.Projection.text) ++
      " FROM (" ++ page.compile.sql ++ ") AS \"p\"" ++
      String.join (kind.resource.childJoins.map Sql.Join.text) ++
      orderText (kind.resource.rules.terms params ++ kind.resource.childOrder) := by
  obtain ⟨order, horder, rfl⟩ := joinedRows_eq_ok_iff.mp h
  obtain ⟨_, rfl⟩ := Rules.order_eq_ok_iff.mp horder
  show Sql.Fragment.numbered 1 _ = _
  rw [numbered_around, Sql.Clauses.numbered_tail, Filter.Become.numbered_where .nil, whereText,
    String.append_empty]
  simp only [Sql.rowsText, Option.isSome_none, Bool.false_eq_true, if_false, String.append_empty,
    ← String.append_assoc]
  rfl

/-- The page and the count of a listing say the same of the rows they keep, and bind the same values
for it, one placeholder each; the page binds its limit and offset after them.  So nothing but the
filters makes a difference to the count. -/
theorem page_and_count_agree (kind : Kind) {params : Params} {rows count : Sql.Select}
    (h : kind.resource.listing params = .ok (rows, count)) :
    let filters := params.filters.filter kind.resource.rules.allow.admits
    let order := kind.resource.rules.terms params
    let source := kind.resource.source.compile.sql
    let bound := filters.flatMap Filter.boundValues
    count.compile.sql = "SELECT COUNT(*) FROM (" ++ source ++ ") AS \"p\"" ++ whereText 1 filters ∧
    rows.compile.sql =
      "SELECT " ++ ", ".intercalate
        ((.every sourceName :: kind.resource.childColumns).map Sql.Projection.text) ++
      " FROM (SELECT \"p\".* FROM (" ++ source ++ ") AS \"p\"" ++ whereText 1 filters ++
        orderText order ++ " LIMIT " ++ mark (bound.length + 1) ++
        " OFFSET " ++ mark (bound.length + 2) ++ ") AS \"p\"" ++
      String.join (kind.resource.childJoins.map Sql.Join.text) ++
      orderText (order ++ kind.resource.childOrder) ∧
    count.compile.values = bound ∧
    rows.compile.values =
      bound ++ [.bigUnsigned (some params.limit), .bigUnsigned (some params.offset)] ∧
    (∀ filter ∈ filters, filter.boundValues.length = filter.width) ∧
    (∀ statement ∈ [rows, count], Sql.Fragment.placeholders statement.compile.sql.toList =
      (List.range' 1 statement.compile.values.length).map mark) ∧
    ∀ sorts offset limit, ∃ otherRows,
      kind.resource.listing { params with sorts, offset, limit } = .ok (otherRows, count) := by
  obtain ⟨page, hpage, hrows, hcount⟩ := listing_eq_ok_iff.mp h
  obtain ⟨conditions, order, hconditions, horder, _⟩ := pageOf_eq_ok_iff.mp hpage
  have hbecome := Rules.conditions_eq_ok_iff.mp hconditions
  have hlength := hbecome.length_values
  rw [hbecome.values] at hlength
  have hsource : kind.resource.source.values.length = 0 := by rw [kind.values_source]; rfl
  refine ⟨?_, ?_, values_count hcount, values_rows hpage hrows, hbecome.length_boundValues, ?_, ?_⟩
  · rw [text_countOf hcount, hsource]
  · have hopening : " FROM (SELECT \"p\".* FROM (" = " FROM (" ++ "SELECT \"p\".* FROM (" := rfl
    rw [text_rows hrows, text_pageOf hpage, hsource, ← hlength, hopening, Nat.add_zero,
      Nat.add_comm 1]
    simp only [String.append_assoc]
  · intro statement hstatement
    apply Sql.Select.placeholders_compile
    rcases List.mem_cons.mp hstatement with rfl | hlast
    · exact unmarked_rows (unmarked_page hpage) hrows
    · rw [List.mem_singleton.mp hlast]
      exact unmarked_count hcount
  · intro sorts offset limit
    have hother := (kind.suits.order_eq { params with sorts, offset, limit }).1
    exact ⟨_, listing_eq_ok_iff.mpr
      ⟨_, pageOf_eq_ok_iff.mpr ⟨conditions, _, hconditions, hother, rfl⟩,
        joinedRows_eq_ok_iff.mpr ⟨_, hother, rfl⟩, hcount⟩⟩

def orderParams : Params where
  filters := [
    ⟨"customer-name", .ilike, [.text "50%"]⟩,
    ⟨"total", .gt, [.integer 100]⟩,
    ⟨"status", .noneOf, []⟩,
    ⟨"customer-id", .anyOf, [.integer 7, .integer 9]⟩]
  sorts := [⟨"number", .desc⟩]
  offset := 20

/-- A pattern, a field that is not on offer, an empty list and a list of two. -/
theorem page_and_count_of_orders :
    ∃ rows count, salesOrders.listing orderParams = .ok (rows, count) ∧
      count.compile.sql =
        "SELECT COUNT(*) FROM (" ++ salesOrders.source.compile.sql ++ ") AS \"p\"" ++
          (" WHERE (\"p\".\"customer_name\" ILIKE $1) AND $2 = $3 AND " ++
            "\"p\".\"customer_id\" IN ($4, $5)") ∧
      rows.compile.values = [
        .string (some "%50\\%%"), .int (some 1), .int (some 1), .bigInt (some 7), .bigInt (some 9),
        .bigUnsigned (some 10), .bigUnsigned (some 20)] ∧
      Sql.Fragment.placeholders rows.compile.sql.toList =
        ["$1", "$2", "$3", "$4", "$5", "$6", "$7"] := by
  obtain ⟨⟨rows, count⟩, hlisting⟩ : ∃ statements,
    salesOrders.listing orderParams = .ok statements := ⟨_, rfl⟩
  obtain ⟨hcount, _, _, hvalues, _, hplaceholders, _⟩ := page_and_count_agree .salesOrder hlisting
  have hwhere : whereText 1 (orderParams.filters.filter salesOrders.rules.allow.admits) =
      " WHERE (\"p\".\"customer_name\" ILIKE $1) AND $2 = $3 AND " ++
        "\"p\".\"customer_id\" IN ($4, $5)" := by
    decide +kernel
  refine ⟨rows, count, hlisting, hcount.trans (congrArg _ hwhere),
    hvalues.trans (by decide +kernel), ?_⟩
  · rw [hplaceholders rows List.mem_cons_self, hvalues]
    decide +kernel

end Kind

end Daybook.Resource
