import Daybook.Proofs.Listing.Soundness
import Daybook.Proofs.Listing.Statement
import Daybook.Proofs.Sql.Values

/-!
# Filters that become conditions

A filter that fits its allow-list becomes a condition on a column of the source, and all values of
the condition can be bound.  The rules of a resource suit the columns of its source if every field
and every default key is one of them.
-/

namespace Daybook.Listing

/-! ## Values of conditions -/

theorem FieldValue.bindable_sqlValue {value : FieldValue} (h : value.Storable) :
    value.sqlValue.Bindable := by
  cases value with
  | text value =>
    rintro _ ⟨⟩
    exact h
  | _ => trivial

/-- A pattern has a NUL only from the value that it looks for. -/
theorem nul_notMem_containsPattern {value : String} (h : '\x00' ∉ value.toList) :
    '\x00' ∉ (containsPattern value).toList := by
  have hescaped : '\x00' ∉ escapePattern value.toList := by
    intro hmem
    obtain ⟨c, hc, hin⟩ := List.mem_flatMap.mp hmem
    have hnul : '\x00' = c := by
      by_cases hspecial : c = '\\' ∨ c = '%' ∨ c = '_'
      · rw [if_pos hspecial] at hin
        simpa using hin
      · rw [if_neg hspecial] at hin
        exact List.mem_singleton.mp hin
    exact h (hnul ▸ hc)
  rw [containsPattern, String.toList_ofList]
  simp [hescaped]

namespace Filter

variable {filter : Filter} {kind : FieldKind}

theorem exists_scalar (h : kind.Fits filter.operator filter.values) :
    ∃ value, filter.scalar = .ok value ∧ value.Bindable := by
  unfold scalar
  cases hvalues : filter.values with
  | nil => exact absurd hvalues h.ne_nil
  | cons value values =>
    have hstorable := h.storable value (hvalues ▸ List.mem_cons_self)
    exact ⟨value.sqlValue, rfl, value.bindable_sqlValue hstorable⟩

theorem exists_pattern (h : kind.Fits filter.operator filter.values) (hkind : kind = .text) :
    ∃ value, filter.pattern = .ok value ∧ value.Bindable := by
  unfold pattern
  cases hvalues : filter.values with
  | nil => exact absurd hvalues h.ne_nil
  | cons value values =>
    have hmem : value ∈ filter.values := hvalues ▸ List.mem_cons_self
    have hstorable := h.storable value hmem
    have htext : value.kind = .text := (h.kind_eq value hmem).trans hkind
    cases value with
    | text value =>
      refine ⟨_, rfl, ?_⟩
      rintro _ ⟨⟩
      exact nul_notMem_containsPattern hstorable
    | _ => cases htext

theorem exists_compare {result : Except Sql.Fault Sql.Value}
    (h : ∃ value, result = .ok value ∧ value.Bindable) (column : Sql.Column)
    (comparison : Sql.Comparison) :
    ∃ condition, result.map (Sql.Condition.compare column comparison) = .ok condition ∧
      condition.column = column ∧ ∀ value ∈ condition.values, value.Bindable := by
  obtain ⟨value, rfl, hvalue⟩ := h
  refine ⟨.compare column comparison value, rfl, rfl, fun other hother => ?_⟩
  rwa [List.mem_singleton.mp hother]

/-- A filter whose values fit the operator becomes a condition on its column. -/
theorem exists_conditionOn (h : kind.Fits filter.operator filter.values)
    (hpattern : filter.operator.isPattern → kind = .text) (column : Sql.Column) :
    ∃ condition, filter.conditionOn column = .ok condition ∧ condition.column = column ∧
      ∀ value ∈ condition.values, value.Bindable := by
  -- A list of values is never empty here, so no condition falls back on comparing numbers.
  have hlist : ∀ value ∈ filter.values.map FieldValue.sqlValue, value.Bindable := by
    intro value hvalue
    obtain ⟨read, hread, rfl⟩ := List.mem_map.mp hvalue
    exact read.bindable_sqlValue (h.storable read hread)
  obtain ⟨first, others, hvalues⟩ := List.exists_cons_of_ne_nil h.ne_nil
  unfold conditionOn
  cases hoperator : filter.operator with
  | like => exact exists_compare (exists_pattern h (hpattern (by rw [hoperator]; rfl))) _ _
  | ilike => exact exists_compare (exists_pattern h (hpattern (by rw [hoperator]; rfl))) _ _
  | anyOf =>
    refine ⟨_, rfl, rfl, ?_⟩
    rw [hvalues] at hlist ⊢
    exact hlist
  | noneOf =>
    refine ⟨_, rfl, rfl, ?_⟩
    rw [hvalues] at hlist ⊢
    exact hlist
  | _ => exact exists_compare (exists_scalar h) _ _

end Filter

/-! ## Rules that suit a source -/

def Shown (names : List String) (column : Sql.Column) : Prop :=
  column.relation = some sourceName → column.name ∈ names

/-- Every column that the rules lead to has a name that can be written and is one of these, and
patterns are only looked for in texts. -/
structure Rules.Suits (rules : Rules) (names : List String) : Prop where
  filters : ∀ allowed ∈ rules.allow.filters,
    isColumnName (storageColumn allowed.field).toList ∧ storageColumn allowed.field ∈ names
  patterns : ∀ allowed ∈ rules.allow.filters, ∀ operator ∈ allowed.operators,
    operator.isPattern → allowed.kind = .text
  sorts : ∀ field ∈ rules.allow.sorts,
    isColumnName (storageColumn field).toList ∧ storageColumn field ∈ names
  default_ne_nil : rules.defaultOrder ≠ []
  defaults : ∀ key ∈ rules.defaultOrder, isColumnName key.column.toList ∧ key.column ∈ names

namespace Rules

variable {rules : Rules} {names : List String}

/-- A filter that the rules allow becomes a condition on a column that is shown. -/
theorem Suits.exists_condition (hsuits : rules.Suits names) {filter : Filter}
    (hfits : rules.allow.Fits filter) :
    ∃ condition, filter.condition = .ok condition ∧ Shown names condition.column ∧
      ∀ value ∈ condition.values, value.Bindable := by
  obtain ⟨allowed, hallowed, hpermits, hvalues⟩ := hfits
  have hmem : allowed ∈ rules.allow.filters := List.mem_of_find?_eq_some hallowed
  have hpattern : filter.operator.isPattern → allowed.kind = .text :=
    hsuits.patterns allowed hmem filter.operator (List.contains_iff_mem.mp hpermits)
  obtain ⟨hname, hcolumn⟩ := hsuits.filters allowed hmem
  rw [AllowList.field_of_filter? hallowed] at hname hcolumn
  obtain ⟨condition, hcondition, hon, hbindable⟩ :=
    Filter.exists_conditionOn hvalues hpattern ⟨some sourceName, storageColumn filter.field⟩
  refine ⟨condition, ?_, ?_, hbindable⟩
  · rw [Filter.condition, sourceColumn, if_pos hname]
    exact hcondition
  · rw [hon]
    exact fun _ => hcolumn

theorem Suits.exists_conditions (hsuits : rules.Suits names) {params : Params}
    (hfits : ∀ filter ∈ params.filters, rules.allow.Fits filter) :
    ∃ conditions, rules.conditions params = .ok conditions ∧ ∀ condition ∈ conditions,
      Shown names condition.column ∧ ∀ value ∈ condition.values, value.Bindable :=
  exists_mapM_eq_ok fun filter hfilter =>
    hsuits.exists_condition (hfits filter (List.mem_of_mem_filter hfilter))

/-- A listing is sorted by columns that are shown. -/
theorem Suits.order_eq (hsuits : rules.Suits names) (params : Params) :
    rules.order params = .ok (rules.terms params) ∧
      ∀ term ∈ rules.terms params, Shown names term.column := by
  have hsort : ∀ sort ∈ (rules.allow.restrict params).sorts, sort.field ∈ rules.allow.sorts :=
    fun sort hmem => List.contains_iff_mem.mp (List.mem_filter.mp hmem).2
  refine ⟨order_eq_ok_iff.mpr ⟨⟨?_, hsuits.default_ne_nil, ?_⟩, rfl⟩, ?_⟩
  · exact fun sort hmem => (hsuits.sorts sort.field (hsort sort hmem)).1
  · exact fun key hmem => (hsuits.defaults key hmem).1
  · intro term hterm _
    rcases List.mem_append.mp hterm with hchosen | hdefault
    · obtain ⟨sort, hmem, rfl⟩ := List.mem_map.mp hchosen
      exact (hsuits.sorts sort.field (hsort sort hmem)).2
    · obtain ⟨key, hmem, rfl⟩ := List.mem_map.mp hdefault
      exact (hsuits.defaults key hmem).2

end Rules

end Daybook.Listing
