import Daybook.Proofs.Listing.Token

/-!
# Objections to a filter token

What is said against the tokens that are no filters.  There are five objections to a token.  Each is
told without the others, so several may apply to one token, and the first of them is the one that is
kept.
-/

namespace Daybook.Listing

/-! ## The five objections -/

/-- What can be said against a token.  None of it depends on there being no other objection. -/
inductive AllowList.ObjectsTo (allow : AllowList) (token : String) : Rejection → Prop
  | malformedToken (h : ∀ field name raw, ¬HasParts token field name raw) :
    allow.ObjectsTo token (.malformedToken token)
  | unknownField {field name raw : String} (hparts : HasParts token field name raw)
    (h : ∀ allowed ∈ allow.filters, allowed.field ≠ field) :
    allow.ObjectsTo token (.unknownField field)
  | unknownOperator {field name raw : String} (hparts : HasParts token field name raw)
    (h : ∀ operator : Operator, operator.wireName ≠ name) :
    allow.ObjectsTo token (.unknownOperator name)
  | operatorNotAllowed {allowed : AllowedFilter} {operator : Operator} {raw : String}
    (hparts : HasParts token allowed.field operator.wireName raw)
    (hfirst : allow.FirstEntry allowed)
    (h : operator ∉ allowed.operators) :
    allow.ObjectsTo token (.operatorNotAllowed allowed.field operator)
  | invalidValue {allowed : AllowedFilter} {operator : Operator} {raw : String}
    (hparts : HasParts token allowed.field operator.wireName raw)
    (hfirst : allow.FirstEntry allowed)
    (h : ∀ values, ¬allowed.kind.Reads operator raw.toList values) :
    allow.ObjectsTo token (.invalidValue allowed.field raw)

/-- The place of a rejection among the objections to a token. -/
def Rejection.rank : Rejection → Nat
  | malformedToken _ => 0
  | unknownField _ => 1
  | unknownOperator _ => 2
  | operatorNotAllowed _ _ => 3
  | invalidValue _ _ => 4
  -- No token has any of the others said against it.
  | unknownSortField _ | invalidDirection _ _ | invalidPagination _ _ => 5

/-- The objection to a token that comes before all others. -/
structure AllowList.FirstObjection (allow : AllowList) (token : String) (rejection : Rejection) :
    Prop where
  objects : allow.ObjectsTo token rejection
  le : ∀ other, allow.ObjectsTo token other → rejection.rank ≤ other.rank

variable {token field name raw : String}

/-! ## Objections that are ruled out -/

namespace AllowList

variable {allow : AllowList} {allowed : AllowedFilter} {operator : Operator}

-- Each step of reading a token rules one objection out.
theorem not_malformedToken (hparts : HasParts token field name raw) (subject : String) :
    ¬allow.ObjectsTo token (.malformedToken subject) := by
  rintro ⟨h⟩
  exact h field name raw hparts

theorem not_unknownField (hparts : HasParts token allowed.field name raw)
    (hfirst : allow.FirstEntry allowed) (subject : String) :
    ¬allow.ObjectsTo token (.unknownField subject) := by
  rintro (_ | ⟨hparts', h⟩)
  obtain ⟨before, after, hfilters, -⟩ := hfirst
  refine h allowed ?_ (hparts.unique hparts').1
  rw [hfilters]
  exact List.mem_append_right before List.mem_cons_self

theorem not_unknownOperator (hparts : HasParts token field operator.wireName raw)
    (subject : String) : ¬allow.ObjectsTo token (.unknownOperator subject) := by
  rintro (_ | _ | ⟨hparts', h⟩)
  exact h operator (hparts.unique hparts').2.1

theorem not_operatorNotAllowed (hparts : HasParts token allowed.field operator.wireName raw)
    (hfirst : allow.FirstEntry allowed) (hpermits : operator ∈ allowed.operators)
    (subject : String) (other : Operator) :
    ¬allow.ObjectsTo token (.operatorNotAllowed subject other) := by
  rintro (_ | _ | _ | ⟨hparts', hfirst', h⟩)
  obtain ⟨rfl, rfl, -⟩ := entry_unique hparts hfirst hparts' hfirst'
  exact h hpermits

theorem not_invalidValue {values : List FieldValue}
    (hparts : HasParts token allowed.field operator.wireName raw)
    (hfirst : allow.FirstEntry allowed) (hreads : allowed.kind.Reads operator raw.toList values)
    (subject value : String) : ¬allow.ObjectsTo token (.invalidValue subject value) := by
  rintro (_ | _ | _ | _ | ⟨hparts', hfirst', h⟩)
  obtain ⟨rfl, rfl, rfl⟩ := entry_unique hparts hfirst hparts' hfirst'
  exact h values hreads

/-- A reading that ends in a rejection has met the first objection. -/
theorem firstObjection_of_reading {rejection : Rejection}
    (h : Filter.Reading allow token (.error rejection)) : allow.FirstObjection token rejection := by
  cases h with
  | malformedToken h => exact ⟨.malformedToken h, fun _ _ => Nat.zero_le _⟩
  | unknownField hparts h =>
    refine ⟨.unknownField hparts (filter?_eq_none_iff.mp h), fun other hother => ?_⟩
    cases other with
    | malformedToken => exact absurd hother (not_malformedToken hparts _)
    | _ => simp [Rejection.rank]
  | unknownOperator hparts hfirst h =>
    refine ⟨.unknownOperator hparts (Operator.ofWireName?_eq_none_iff.mp h), fun other hother => ?_⟩
    cases other with
    | malformedToken => exact absurd hother (not_malformedToken hparts _)
    | unknownField => exact absurd hother (not_unknownField hparts hfirst _)
    | _ => simp [Rejection.rank]
  -- Objections of lower rank would deny what the reading has found already.
  | operatorNotAllowed hparts hfirst h =>
    refine ⟨.operatorNotAllowed hparts hfirst h, fun other hother => ?_⟩
    cases other with
    | malformedToken => exact absurd hother (not_malformedToken hparts _)
    | unknownField => exact absurd hother (not_unknownField hparts hfirst _)
    | unknownOperator => exact absurd hother (not_unknownOperator hparts _)
    | _ => simp [Rejection.rank]
  | invalidValue hparts hfirst hpermits h =>
    have hnone := FieldKind.readAll?_eq_none_iff.mp h
    refine ⟨.invalidValue hparts hfirst hnone, fun other hother => ?_⟩
    cases other with
    | malformedToken => exact absurd hother (not_malformedToken hparts _)
    | unknownField => exact absurd hother (not_unknownField hparts hfirst _)
    | unknownOperator => exact absurd hother (not_unknownOperator hparts _)
    | operatorNotAllowed => exact absurd hother (not_operatorNotAllowed hparts hfirst hpermits _ _)
    | _ => simp [Rejection.rank]

-- Nothing can be said against a token that is taken.
theorem not_objectsTo_of_takes {filter : Filter} (htoken : IsToken token key raw)
    (htakes : allow.Takes key raw filter) (rejection : Rejection) :
    ¬allow.ObjectsTo token rejection := by
  obtain ⟨hkey, hfirst, hpermits, hreads⟩ := htakes
  have hparts : HasParts token _ _ raw := ⟨key, htoken, hkey⟩
  intro h
  cases rejection with
  | malformedToken => exact not_malformedToken hparts _ h
  | unknownField => exact not_unknownField hparts hfirst _ h
  | unknownOperator => exact not_unknownOperator hparts _ h
  | operatorNotAllowed => exact not_operatorNotAllowed hparts hfirst hpermits _ _ h
  | invalidValue => exact not_invalidValue hparts hfirst hreads _ _ h
  | _ => cases h

/-- There is at most one objection of each kind. -/
theorem ObjectsTo.eq_of_rank_eq {rejection other : Rejection}
    (h : allow.ObjectsTo token rejection) (h' : allow.ObjectsTo token other)
    (hrank : rejection.rank = other.rank) : rejection = other := by
  cases h with
  | malformedToken =>
    cases h' with
    | malformedToken => rfl
    | _ => cases hrank
  | unknownField hparts =>
    cases h' with
    | unknownField hparts' => rw [(hparts.unique hparts').1]
    | _ => cases hrank
  | unknownOperator hparts =>
    cases h' with
    | unknownOperator hparts' => rw [(hparts.unique hparts').2.1]
    | _ => cases hrank
  | operatorNotAllowed hparts hfirst =>
    cases h' with
    | operatorNotAllowed hparts' hfirst' =>
      obtain ⟨rfl, rfl, -⟩ := entry_unique hparts hfirst hparts' hfirst'
      rfl
    | _ => cases hrank
  | invalidValue hparts hfirst =>
    cases h' with
    | invalidValue hparts' hfirst' =>
      obtain ⟨rfl, -, rfl⟩ := entry_unique hparts hfirst hparts' hfirst'
      rfl
    | _ => cases hrank

end AllowList

/-! ## The objection that is kept -/

/-- A token is rejected with the first objection to it. -/
theorem Filter.read_eq_error_iff {allow : AllowList} {rejection : Rejection} :
    Filter.read allow token = .error rejection ↔ allow.FirstObjection token rejection := by
  constructor
  · intro h
    exact AllowList.firstObjection_of_reading (h ▸ reading_read allow token)
  · intro hfirst
    cases hresult : Filter.read allow token with
    | error other =>
      have hother := AllowList.firstObjection_of_reading (hresult ▸ reading_read allow token)
      have hrank := Nat.le_antisymm (hother.le _ hfirst.objects) (hfirst.le _ hother.objects)
      rw [hother.objects.eq_of_rank_eq hfirst.objects hrank]
    | ok filter =>
      obtain ⟨key, raw, htoken, htakes⟩ := read_eq_ok_iff.mp hresult
      exact absurd hfirst.objects (AllowList.not_objectsTo_of_takes htoken htakes rejection)

namespace Intake

variable (policy : Policy) (intake : Intake)

/-- A filter is added just when the token takes it. -/
theorem addFilter_eq_withFilter_iff {filter : Filter} :
    intake.addFilter policy token = intake.withFilter filter ↔
      ∃ key raw, IsToken token key raw ∧ policy.allow.Takes key raw filter := by
  rw [← Filter.read_eq_ok_iff, addFilter]
  cases Filter.read policy.allow token with
  | ok other => simp [withFilter]
  | error rejection => simp [withFilter, reject]

theorem addFilter_eq_reject_iff {rejection : Rejection} :
    intake.addFilter policy token = intake.reject rejection ↔
      policy.allow.FirstObjection token rejection := by
  rw [← Filter.read_eq_error_iff, addFilter]
  cases Filter.read policy.allow token with
  | ok filter => simp [reject]
  | error other => simp [reject]

/-- Grammar: a token is taken as a filter exactly when it has the form of one for an entry of the
allow-list.  Any other token is dropped, and the reason kept is the first that there is. -/
theorem addFilter_by_grammar (token : String) :
    (∀ filter, intake.addFilter policy token = intake.withFilter filter ↔
        ∃ key raw, IsToken token key raw ∧ policy.allow.Takes key raw filter) ∧
      (∀ rejection, intake.addFilter policy token = intake.reject rejection ↔
        policy.allow.FirstObjection token rejection) ∧
      ((∃ filter key raw, IsToken token key raw ∧ policy.allow.Takes key raw filter) ∨
        ∃ rejection, policy.allow.FirstObjection token rejection) := by
  refine ⟨fun _ => addFilter_eq_withFilter_iff policy intake,
    fun _ => addFilter_eq_reject_iff policy intake, ?_⟩
  cases hresult : Filter.read policy.allow token with
  | ok filter => exact .inl ⟨filter, Filter.read_eq_ok_iff.mp hresult⟩
  | error rejection => exact .inr ⟨rejection, Filter.read_eq_error_iff.mp hresult⟩

/-- Some of the forms: parentheses come off once, blank elements do not count, a second colon is one
too many, and of two objections the earlier one is kept. -/
theorem addFilter_by_grammar_of_ids :
    let allow : AllowList := ⟨[⟨"id", [.eq, .anyOf], .integer⟩], []⟩
    (∃ key raw, IsToken "id:in= (1,,+2 )" key raw ∧
        allow.Takes key raw ⟨"id", .anyOf, [.integer 1, .integer 2]⟩) ∧
      allow.FirstObjection "id:in=((1))" (.invalidValue "id" "((1))") ∧
      allow.FirstObjection "id:nin=((1))" (.operatorNotAllowed "id" .noneOf) ∧
      allow.FirstObjection "id:IN=((1))" (.unknownOperator "IN") ∧
      allow.FirstObjection "ids:IN=((1))" (.unknownField "ids") ∧
      allow.FirstObjection "ids:IN:=((1))" (.malformedToken "ids:IN:=((1))") := by
  intro allow
  let policy : Policy := { allow }
  have hgrammar := addFilter_by_grammar policy (.start policy)
  exact ⟨((hgrammar _).1 _).mp (by decide), ((hgrammar _).2.1 _).mp (by decide),
    ((hgrammar _).2.1 _).mp (by decide), ((hgrammar _).2.1 _).mp (by decide),
    ((hgrammar _).2.1 _).mp (by decide), ((hgrammar _).2.1 _).mp (by decide)⟩

end Intake

end Daybook.Listing
