import Daybook.Proofs.Listing.Text

/-!
# Values that do not show

Of the values of a filter only their number shows in its words, and that only on lists.  So no value
can change what a statement says.
-/

namespace Daybook.Listing

/-- Filters that differ in nothing but their values, and on lists not in the number of these. -/
structure Filter.Alike (filter other : Filter) : Prop where
  field_eq : filter.field = other.field
  operator_eq : filter.operator = other.operator
  length_eq : filter.operator.isList → filter.values.length = other.values.length

namespace Filter

/-- Alike filters bind the same number of values. -/
theorem Alike.width_eq {filter other : Filter} (h : filter.Alike other) :
    filter.width = other.width := by
  unfold width
  rw [← h.operator_eq]
  cases hlist : filter.operator.isList with
  | false => rfl
  | true => rw [h.length_eq hlist]

/-- Alike filters have the same text, wherever its numbering starts. -/
theorem Alike.text_eq {filter other : Filter} (h : filter.Alike other) (next : Nat) :
    filter.text next = other.text next := by
  unfold text
  rw [← h.operator_eq, ← h.field_eq]
  cases hlist : filter.operator.isList with
  | false => rfl
  | true => rw [h.length_eq hlist]

/-- Alike lists of filters have the same texts, since each starts where the one before it ends. -/
theorem conjunctTexts_eq_of_alike {filters others : List Filter}
    (h : List.Forall₂ Alike filters others) (next : Nat) :
    conjunctTexts next filters = conjunctTexts next others := by
  induction h generalizing next with
  | nil => rfl
  | cons halike _ ih =>
    rw [conjunctTexts, conjunctTexts, ih, conjunctText, conjunctText, halike.operator_eq,
      halike.text_eq, halike.width_eq]

theorem sum_width_eq_of_alike {filters others : List Filter}
    (h : List.Forall₂ Alike filters others) :
    (filters.map width).sum = (others.map width).sum := by
  induction h with
  | nil => rfl
  | cons halike _ ih => rw [List.map_cons, List.map_cons, List.sum_cons, List.sum_cons, ih,
      halike.width_eq]

end Filter

theorem whereText_eq_of_alike {filters others : List Filter}
    (h : List.Forall₂ Filter.Alike filters others) (next : Nat) :
    whereText next filters = whereText next others := by
  have htexts := Filter.conjunctTexts_eq_of_alike h next
  cases h with
  | nil => rfl
  | cons hfirst hrest =>
    cases hrest with
    | nil => rw [whereText, whereText, hfirst.text_eq]
    | cons hsecond hrest => exact congrArg (" WHERE " ++ " AND ".intercalate ·) htexts

-- The allow-list looks at the field and the operator of a filter only.
theorem AllowList.filter_alike (allow : AllowList) {filters others : List Filter}
    (h : List.Forall₂ Filter.Alike filters others) :
    List.Forall₂ Filter.Alike (filters.filter allow.admits) (others.filter allow.admits) := by
  induction h with
  | nil => exact .nil
  | @cons filter other filters others halike _ ih =>
    have hadmits : allow.admits filter = allow.admits other := by
      rw [admits, admits, halike.field_eq, halike.operator_eq]
    cases hother : allow.admits other with
    | false =>
      rw [List.filter_cons_of_neg (by simp [hadmits, hother]),
        List.filter_cons_of_neg (by simp [hother])]
      exact ih
    | true =>
      rw [List.filter_cons_of_pos (hadmits.trans hother), List.filter_cons_of_pos hother]
      exact .cons halike ih

variable {rules : Rules} {source : Sql.Select}

/-- Whatever stands in the values of a request, be it quotes, placeholders or wildcards, a page and
a count are put in the same words. -/
theorem text_eq_of_alike {params others : Params} (hsorts : params.sorts = others.sorts)
    (hfilters : List.Forall₂ Filter.Alike params.filters others.filters) :
    (∀ page other, pageOf rules params source = .ok page → pageOf rules others source = .ok other →
      page.compile.sql = other.compile.sql) ∧
    ∀ count other, countOf rules params source = .ok count →
      countOf rules others source = .ok other → count.compile.sql = other.compile.sql := by
  have hadmitted := rules.allow.filter_alike hfilters
  constructor
  · intro page other hpage hother
    have hterms : rules.terms params = rules.terms others := by
      rw [Rules.terms, Rules.terms, AllowList.restrict, AllowList.restrict, hsorts]
    rw [text_pageOf hpage, text_pageOf hother, whereText_eq_of_alike hadmitted,
      Filter.sum_width_eq_of_alike hadmitted, hterms]
  · intro count other hcount hother
    rw [text_countOf hcount, text_countOf hother, whereText_eq_of_alike hadmitted]

def nameRules : Rules where
  allow := { filters := [⟨"name", [.ilike], .text⟩, ⟨"id", [.anyOf], .integer⟩], sorts := ["name"] }
  defaultOrder := [⟨"id", .asc⟩]

def customers : Sql.Select :=
  .ofTable "customers" { projections := [.plain ⟨none, "id"⟩, .plain ⟨none, "name"⟩] }

def hostileParams : Params where
  filters := [
    ⟨"name", .ilike, [.text "x' OR $2 = $1 -- %\\", .boolean true]⟩,
    ⟨"id", .anyOf, [.text "0) OR (1 = 1", .integer 7]⟩]
  sorts := [⟨"name", .desc⟩]
  limit := 1000000

def harmlessParams : Params where
  filters := [⟨"name", .ilike, [.text ""]⟩, ⟨"id", .anyOf, [.integer 1, .integer 2]⟩]
  sorts := [⟨"name", .desc⟩]
  offset := 20

/-- Quotes, placeholders and wildcards in the values leave the words of a page as they are. -/
theorem text_of_hostile_values :
    hostileParams.sorts = harmlessParams.sorts ∧
      List.Forall₂ Filter.Alike hostileParams.filters harmlessParams.filters ∧
      ∃ hostile harmless, pageOf nameRules hostileParams customers = .ok hostile ∧
        pageOf nameRules harmlessParams customers = .ok harmless ∧
        hostile.compile.sql = harmless.compile.sql ∧
        hostile.compile.values ≠ harmless.compile.values := by
  have hsorts : hostileParams.sorts = harmlessParams.sorts := rfl
  have halike : List.Forall₂ Filter.Alike hostileParams.filters harmlessParams.filters :=
    .cons ⟨rfl, rfl, fun h => by cases h⟩ (.cons ⟨rfl, rfl, fun _ => rfl⟩ .nil)
  obtain ⟨hostile, hhostile⟩ : ∃ page, pageOf nameRules hostileParams customers = .ok page :=
    ⟨_, rfl⟩
  obtain ⟨harmless, hharmless⟩ : ∃ page, pageOf nameRules harmlessParams customers = .ok page :=
    ⟨_, rfl⟩
  refine ⟨hsorts, halike, hostile, harmless, hhostile, hharmless,
    (text_eq_of_alike hsorts halike).1 hostile harmless hhostile hharmless, ?_⟩
  cases hhostile
  cases hharmless
  decide +kernel

end Daybook.Listing
