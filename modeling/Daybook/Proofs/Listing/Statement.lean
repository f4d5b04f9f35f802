import Daybook.Listing.Statement
import Daybook.Proofs.Except

/-!
# When a listing statement can be built

Terms to order by fail only on a name that no column can have.  Where they do not fail, they are the
columns of the source under its name.
-/

namespace Daybook.Listing

/-! ## Columns and terms -/

/-- A column of the source is made just when its name is one. -/
theorem sourceColumn_map_eq_ok_iff {α : Type} {name : String} {f : Sql.Column → α} {a : α} :
    (sourceColumn name).map f = .ok a ↔
      isColumnName name.toList ∧ a = f ⟨some sourceName, name⟩ := by
  unfold sourceColumn
  by_cases hname : isColumnName name.toList
  · rw [if_pos hname, Except.map, Except.ok.injEq, eq_comm, and_iff_right hname]
  · rw [if_neg hname]
    simp [Except.map, hname]

def SortField.orderTerm (sort : SortField) : Sql.OrderTerm :=
  ⟨⟨some sourceName, storageColumn sort.field⟩, sort.direction⟩

def OrderKey.orderTerm (key : OrderKey) : Sql.OrderTerm :=
  ⟨⟨some sourceName, key.column⟩, key.direction⟩

theorem SortField.term_eq_ok_iff (sort : SortField) (term : Sql.OrderTerm) :
    sort.term = .ok term ↔
      isColumnName (storageColumn sort.field).toList ∧ term = sort.orderTerm :=
  sourceColumn_map_eq_ok_iff

theorem OrderKey.term_eq_ok_iff (key : OrderKey) (term : Sql.OrderTerm) :
    key.term = .ok term ↔ isColumnName key.column.toList ∧ term = key.orderTerm :=
  sourceColumn_map_eq_ok_iff

namespace Rules

variable {rules : Rules} {params : Params}

def terms (rules : Rules) (params : Params) : List Sql.OrderTerm :=
  (rules.allow.restrict params).sorts.map SortField.orderTerm ++
    rules.defaultOrder.map OrderKey.orderTerm

theorem defaultTerms_eq_ok_iff {terms : List Sql.OrderTerm} :
    rules.defaultTerms = .ok terms ↔
      (rules.defaultOrder ≠ [] ∧ ∀ key ∈ rules.defaultOrder, isColumnName key.column.toList) ∧
        terms = rules.defaultOrder.map OrderKey.orderTerm := by
  unfold defaultTerms
  cases hkeys : rules.defaultOrder with
  | nil => simp
  | cons key keys =>
    rw [mapM_eq_ok_iff_of_forall OrderKey.term_eq_ok_iff, and_iff_right (List.cons_ne_nil _ _)]

-- The order can be built exactly when all names in it are names of columns and there is a default
-- ordering.
theorem order_eq_ok_iff {order : List Sql.OrderTerm} :
    rules.order params = .ok order ↔
      ((∀ sort ∈ (rules.allow.restrict params).sorts,
          isColumnName (storageColumn sort.field).toList) ∧
        rules.defaultOrder ≠ [] ∧ ∀ key ∈ rules.defaultOrder, isColumnName key.column.toList) ∧
      order = rules.terms params := by
  unfold Rules.order
  simp only [bind_eq_ok_iff, pure_eq_ok_iff, defaultTerms_eq_ok_iff,
    mapM_eq_ok_iff_of_forall SortField.term_eq_ok_iff]
  constructor
  · rintro ⟨_, ⟨hsorts, rfl⟩, _, ⟨hdefault, rfl⟩, rfl⟩
    exact ⟨⟨hsorts, hdefault⟩, rfl⟩
  · rintro ⟨⟨hsorts, hdefault⟩, rfl⟩
    exact ⟨_, ⟨hsorts, rfl⟩, _, ⟨hdefault, rfl⟩, rfl⟩

theorem relation_of_mem_terms {term : Sql.OrderTerm} (h : term ∈ rules.terms params) :
    term.column.relation = some sourceName := by
  rcases List.mem_append.mp h with hsort | hkey
  · obtain ⟨sort, _, rfl⟩ := List.mem_map.mp hsort
    rfl
  · obtain ⟨key, _, rfl⟩ := List.mem_map.mp hkey
    rfl

/-- The default order is always part of the order. -/
theorem orderTerm_mem_terms {key : OrderKey} (h : key ∈ rules.defaultOrder) :
    key.orderTerm ∈ rules.terms params :=
  List.mem_append_right _ (List.mem_map_of_mem h)

end Rules

/-! ## Statements -/

variable {rules : Rules} {params : Params} {source : Sql.Select}

/-- A page is made just when its conditions and its order are. -/
theorem pageOf_eq_ok_iff {page : Sql.Select} :
    pageOf rules params source = .ok page ↔
      ∃ conditions order, rules.conditions params = .ok conditions ∧
        rules.order params = .ok order ∧
        page = .ofSelect source sourceName {
          projections := [.every sourceName]
          conditions, order, limit := some params.limit, offset := some params.offset } := by
  unfold pageOf
  simp only [bind_eq_ok_iff, pure_eq_ok_iff]
  constructor
  · rintro ⟨conditions, hconditions, order, horder, rfl⟩
    exact ⟨conditions, order, hconditions, horder, rfl⟩
  · rintro ⟨conditions, order, hconditions, horder, rfl⟩
    exact ⟨conditions, hconditions, order, horder, rfl⟩

theorem countOf_eq_ok_iff {count : Sql.Select} :
    countOf rules params source = .ok count ↔
      ∃ conditions, rules.conditions params = .ok conditions ∧
        count = .ofSelect source sourceName { projections := [.rowCount], conditions } := by
  unfold countOf
  simp only [bind_eq_ok_iff, pure_eq_ok_iff]
  constructor
  · rintro ⟨conditions, hconditions, rfl⟩
    exact ⟨conditions, hconditions, rfl⟩
  · rintro ⟨conditions, hconditions, rfl⟩
    exact ⟨conditions, hconditions, rfl⟩

/-- A statement for one key is made just when the name of the key column is one. -/
theorem keyedBy_eq_ok_iff {column : String} {key : Int64} {statement : Sql.Select} :
    keyedBy column key source = .ok statement ↔
      isColumnName column.toList ∧
        statement = .ofSelect source sourceName {
          projections := [.every sourceName]
          conditions := [.compare ⟨some sourceName, column⟩ .eq (.bigInt (some key))] } := by
  exact sourceColumn_map_eq_ok_iff

end Daybook.Listing
