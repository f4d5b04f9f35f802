import Daybook.Proofs.Listing.Condition
import Daybook.Proofs.Listing.Kinds
import Daybook.Proofs.Listing.Text

/-!
# One allow-list, asked twice

The allow-list decides what an intake lets in, and is asked again when a statement is built.  Both
decide alike: a statement passes over just what an intake would have rejected, and nothing that an
intake has let in is lost.
-/

namespace Daybook.Listing

/-! ## Statements of restricted parameters -/

namespace Rules

variable (rules : Rules) (params : Params)

/-- Filters that are not allowed make no conditions. -/
theorem conditions_restrict :
    rules.conditions (rules.allow.restrict params) = rules.conditions params := by
  simp only [conditions, AllowList.restrict, List.filter_filter, Bool.and_self]

theorem order_restrict : rules.order (rules.allow.restrict params) = rules.order params := by
  simp only [order, AllowList.restrict, List.filter_filter, Bool.and_self]

/-- A page is the same without what is not allowed. -/
theorem pageOf_restrict (source : Sql.Select) :
    pageOf rules (rules.allow.restrict params) source = pageOf rules params source := by
  rw [pageOf, pageOf, conditions_restrict, order_restrict]
  rfl

theorem countOf_restrict (source : Sql.Select) :
    countOf rules (rules.allow.restrict params) source = countOf rules params source := by
  rw [countOf, countOf, conditions_restrict]

end Rules

/-! ## Parameters that were let in -/

namespace AllowList

variable {allow : AllowList} {params : Params}

theorem admits_of_fits {filter : Filter} (h : allow.Fits filter) : allow.admits filter := by
  obtain ⟨allowed, hallowed, hpermits, _⟩ := h
  rw [admits, permits, hallowed]
  exact hpermits

/-- Every filter of the parameters is one that the allow-list leads to, and every sort. -/
structure Covers (allow : AllowList) (params : Params) : Prop where
  filters : ∀ filter ∈ params.filters, allow.Fits filter
  sorts : ∀ sort ∈ params.sorts, allow.sortable sort.field

/-- Nothing is dropped from parameters that the allow-list covers. -/
theorem Covers.restrict_eq (h : allow.Covers params) : allow.restrict params = params := by
  have hfilters : params.filters.filter allow.admits = params.filters :=
    List.filter_eq_self.mpr fun filter hmem => admits_of_fits (h.filters filter hmem)
  have hsorts : params.sorts.filter (fun sort => allow.sortable sort.field) = params.sorts :=
    List.filter_eq_self.mpr h.sorts
  rw [restrict, hfilters, hsorts]

end AllowList

/-- What is read by a policy is covered by its allow-list. -/
theorem Policy.covers_ofPairs (policy : Policy) (pairs : List (String × String)) :
    policy.allow.Covers (Intake.ofPairs policy pairs).params := by
  -- The limits have no say in filters and sorts, so limits that fit can stand in for them.
  let standin : Policy := { policy with limits := {} }
  have hlimits : PageLimits.Valid {} := ⟨by decide, by decide, by decide⟩
  have hadmits : standin.Admits (Intake.ofPairs standin pairs).params :=
    admits_ofPairs hlimits pairs
  have hsame : (Intake.ofPairs policy pairs).params = {
      (Intake.ofPairs standin pairs).params with
      offset := (Intake.ofPairs policy pairs).params.offset
      limit := (Intake.ofPairs policy pairs).params.limit } := by
    rw [params_ofPairs, params_ofPairs]
    rfl
  rw [hsame]
  exact ⟨hadmits.filters, hadmits.sorts⟩

/-! ## Statements of a request -/

variable (rules : Rules) (source : Sql.Select)

/-- What the allow-list does not admit makes no difference to a page or a count, be it built or
refused, and of what an intake has let in there is nothing that it does not admit.  So a statement
has a condition for each filter of a request, and is ordered by each of its sorts; and both
statements are built where all names are names of columns and patterns are for texts. -/
theorem restrict_changes_no_statement :
    (∀ params, pageOf rules (rules.allow.restrict params) source = pageOf rules params source ∧
      countOf rules (rules.allow.restrict params) source = countOf rules params source) ∧
    ∀ limits pairs,
      let params := (Intake.ofPairs ⟨rules.allow, limits⟩ pairs).params
      rules.allow.restrict params = params ∧
      (∀ page, pageOf rules params source = .ok page →
        Filter.Become params.filters page.clauses.conditions ∧
        page.clauses.order = params.sorts.map SortField.orderTerm ++
          rules.defaultOrder.map OrderKey.orderTerm) ∧
      (∀ count, countOf rules params source = .ok count →
        Filter.Become params.filters count.clauses.conditions) ∧
      ∀ names, rules.Suits names →
        ∃ page count, pageOf rules params source = .ok page ∧
          countOf rules params source = .ok count := by
  refine ⟨fun params => ⟨rules.pageOf_restrict params source, rules.countOf_restrict params source⟩,
    fun limits pairs => ?_⟩
  intro params
  have hcovers : rules.allow.Covers params := Policy.covers_ofPairs ⟨rules.allow, limits⟩ pairs
  have hsame : rules.allow.restrict params = params := hcovers.restrict_eq
  have hfilters : params.filters.filter rules.allow.admits = params.filters :=
    congrArg Params.filters hsame
  refine ⟨hsame, fun page hpage => ?_, fun count hcount => ?_, fun names hsuits => ?_⟩
  · obtain ⟨conditions, order, hconditions, horder, rfl⟩ := pageOf_eq_ok_iff.mp hpage
    obtain ⟨_, rfl⟩ := Rules.order_eq_ok_iff.mp horder
    refine ⟨hfilters ▸ Rules.conditions_eq_ok_iff.mp hconditions, ?_⟩
    show rules.terms params = _
    rw [Rules.terms, hsame]
  · obtain ⟨conditions, hconditions, rfl⟩ := countOf_eq_ok_iff.mp hcount
    exact hfilters ▸ Rules.conditions_eq_ok_iff.mp hconditions
  · obtain ⟨conditions, hconditions, _⟩ := hsuits.exists_conditions hcovers.filters
    obtain ⟨horder, _⟩ := hsuits.order_eq params
    exact ⟨_, _, pageOf_eq_ok_iff.mpr ⟨conditions, _, hconditions, horder, rfl⟩,
      countOf_eq_ok_iff.mpr ⟨conditions, hconditions, rfl⟩⟩

def shadowedRules : Rules where
  allow := {
    filters := [⟨"name", [.eq], .text⟩, ⟨"name", [.ilike], .text⟩, ⟨"id", [.anyOf], .integer⟩]
    sorts := ["name"] }
  defaultOrder := [⟨"id", .asc⟩]

def shadowedPairs : List (String × String) :=
  [("name:ilike", "a"), ("sort:id", "desc"), ("id:in", "1,2"), ("sort:name", "desc"),
    ("name:eq", "Ada")]

def shadowedParams : Params where
  filters := [⟨"name", .ilike, [.text "a"]⟩, ⟨"id", .anyOf, [.integer 1, .integer 2]⟩]
  sorts := [⟨"id", .desc⟩]

/-- A pattern is looked for neither in a request nor in parameters that never were one. -/
theorem restrict_of_shadowed_entry :
    let people : Sql.Select := .ofTable "people" { projections := [.plain ⟨none, "id"⟩] }
    let params := (Intake.ofPairs ⟨shadowedRules.allow, {}⟩ shadowedPairs).params
    pageOf shadowedRules shadowedParams people =
        pageOf shadowedRules ⟨[⟨"id", .anyOf, [.integer 1, .integer 2]⟩], [], 0, 10⟩ people ∧
      ∃ page, pageOf shadowedRules params people = .ok page ∧
        params.filters.length = 2 ∧ page.clauses.conditions.length = 2 ∧
        page.clauses.order = [⟨⟨some "p", "name"⟩, .desc⟩, ⟨⟨some "p", "id"⟩, .asc⟩] := by
  intro people params
  have hparams : params = {
      filters := [⟨"id", .anyOf, [.integer 1, .integer 2]⟩, ⟨"name", .eq, [.text "Ada"]⟩]
      sorts := [⟨"name", .desc⟩] } := by
    decide +kernel
  have hsuits : shadowedRules.Suits ["name", "id"] :=
    ⟨by decide +kernel, by decide, by decide +kernel, by decide, by decide +kernel⟩
  obtain ⟨hrestrict, hrequest⟩ := restrict_changes_no_statement shadowedRules people
  obtain ⟨_, hpages, _, hbuilt⟩ := hrequest {} shadowedPairs
  obtain ⟨page, _, hpage, _⟩ := hbuilt ["name", "id"] hsuits
  obtain ⟨hconditions, horder⟩ := hpages page hpage
  have hlength : params.filters.length = 2 := congrArg (·.filters.length) hparams
  refine ⟨(hrestrict shadowedParams).1.symm, page, hpage, hlength,
    hconditions.length_eq.symm.trans hlength, horder.trans ?_⟩
  show params.sorts.map _ ++ _ = _
  rw [hparams]
  rfl

end Daybook.Listing
