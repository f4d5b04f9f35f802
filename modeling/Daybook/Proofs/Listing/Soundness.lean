import Daybook.Proofs.Listing.TokenGrammar

/-!
# What an intake lets through

Whatever is asked, the parameters stay within the policy: filters fit the entries of their fields,
sorts are admitted and named once, and the page is within the limits.  Each step keeps this, so it
holds after any run of steps.
-/

namespace Daybook.Listing

/-! ## Values that were read -/

def FieldValue.Storable : FieldValue → Prop
  | text value => '\x00' ∉ value.toList
  | _ => True

instance : (value : FieldValue) → Decidable value.Storable
  | .text value => inferInstanceAs (Decidable ('\x00' ∉ value.toList))
  | .integer _ | .boolean _ | .date _ => inferInstanceAs (Decidable True)

theorem FieldKind.storable_of_read? {kind : FieldKind} {raw : List Char} {value : FieldValue}
    (h : kind.read? raw = some value) : value.Storable := by
  have hkind := kind_of_read? h
  cases value with
  | text value =>
    cases hkind
    simp only [FieldValue.kind, read?, Option.ite_none_left_eq_some, Option.some.injEq,
      FieldValue.text.injEq] at h
    obtain ⟨hfree, rfl⟩ := h
    rwa [FieldValue.Storable, String.toList_ofList]
  | _ => trivial

/-- The values of a filter on a field of the kind: one for most operators, some for those on
lists. -/
structure FieldKind.Fits (kind : FieldKind) (operator : Operator) (values : List FieldValue) :
    Prop where
  ne_nil : values ≠ []
  single : operator.isList = false → values.length = 1
  kind_eq : ∀ value ∈ values, value.kind = kind
  storable : ∀ value ∈ values, value.Storable

/-- Values that were read fit the operator if they are as many as it takes. -/
theorem FieldKind.fits_of_read? {kind : FieldKind} {operator : Operator}
    {values : List FieldValue} (hne : values ≠ [])
    (hsingle : operator.isList = false → values.length = 1)
    (hread : ∀ value ∈ values, ∃ raw, kind.read? raw = some value) :
    kind.Fits operator values where
  ne_nil := hne
  single := hsingle
  kind_eq value hvalue := by
    obtain ⟨raw, hraw⟩ := hread value hvalue
    exact kind_of_read? hraw
  storable value hvalue := by
    obtain ⟨raw, hraw⟩ := hread value hvalue
    exact storable_of_read? hraw

theorem FieldKind.Reads.fits {kind : FieldKind} {operator : Operator} {raw : List Char}
    {values : List FieldValue} (h : kind.Reads operator raw values) :
    kind.Fits operator values := by
  cases h with
  | single _ hread =>
    apply fits_of_read? (List.cons_ne_nil _ _) (fun _ => rfl)
    intro value hvalue
    rw [List.mem_singleton.mp hvalue]
    exact ⟨raw, hread⟩
  | list hlist _ hne hread =>
    have hmap := mapM_eq_some_iff.mp (mapM_read?_eq_some_iff.mpr hread)
    apply fits_of_read?
    · rintro rfl
      exact hne (List.forall₂_nil_right_iff.mp hread)
    · intro hscalar
      rw [hscalar] at hlist
      cases hlist
    · intro value hvalue
      obtain ⟨item, _, hitem⟩ := List.mem_map.mp (hmap ▸ List.mem_map_of_mem hvalue)
      exact ⟨item, hitem⟩

/-! ## Filters that were read -/

def AllowList.Fits (allow : AllowList) (filter : Filter) : Prop :=
  ∃ allowed, allow.filter? filter.field = some allowed ∧ allowed.permits filter.operator ∧
    allowed.kind.Fits filter.operator filter.values

theorem AllowList.fits_of_read {allow : AllowList} {token : String} {filter : Filter}
    (h : Filter.read allow token = .ok filter) : allow.Fits filter := by
  obtain ⟨key, raw, -, -, hfirst, hpermits, hreads⟩ := Filter.read_eq_ok_iff.mp h
  exact ⟨_, filter?_eq_some_iff.mpr ⟨hfirst, rfl⟩, List.contains_iff_mem.mpr hpermits, hreads.fits⟩

/-! ## The invariant -/

structure Policy.Admits (policy : Policy) (params : Params) : Prop where
  filters : ∀ filter ∈ params.filters, policy.allow.Fits filter
  sorts : ∀ sort ∈ params.sorts, policy.allow.sortable sort.field
  sorts_nodup : (params.sorts.map SortField.field).Nodup
  offset_le : params.offset ≤ Sql.largestBigInt
  one_le_limit : 1 ≤ params.limit
  limit_le : params.limit ≤ policy.limits.most

namespace Policy

variable {policy : Policy}

/-- The policy admits an intake that nothing was added to. -/
theorem admits_start (hlimits : policy.limits.Valid) :
    policy.Admits (Intake.start policy).params where
  filters filter hfilter := by cases hfilter
  sorts sort hsort := by cases hsort
  sorts_nodup := List.nodup_nil
  offset_le := Nat.zero_le _
  one_le_limit := hlimits.one_le_standard
  limit_le := hlimits.standard_le_most

variable {intake : Intake}

/-- Whatever token comes, the policy goes on to admit the parameters. -/
theorem admits_addFilter (h : policy.Admits intake.params) (token : String) :
    policy.Admits (intake.addFilter policy token).params := by
  unfold Intake.addFilter
  split
  · rename_i filter hfilter
    refine { h with filters := fun other hother => ?_ }
    rcases List.mem_append.mp hother with hold | hnew
    · exact h.filters other hold
    · rw [List.mem_singleton.mp hnew]
      exact AllowList.fits_of_read hfilter
  · exact h

theorem admits_addSort (h : policy.Admits intake.params) (field direction : String) :
    policy.Admits (intake.addSort policy field direction).params := by
  unfold Intake.addSort
  by_cases hsortable : policy.allow.sortable field
  · rw [if_pos hsortable]
    split
    · by_cases hknown : intake.params.sorts.any fun sort => sort.field == field
      · rw [if_pos hknown]
        exact h
      · rw [if_neg hknown]
        refine { h with sorts := fun other hother => ?_, sorts_nodup := ?_ }
        · rcases List.mem_append.mp hother with hold | hnew
          · exact h.sorts other hold
          · rw [List.mem_singleton.mp hnew]
            exact hsortable
        -- The field was not sorted by before, so no field is sorted by twice.
        · rw [List.map_append, List.map_singleton]
          refine List.nodup_append.mpr ⟨h.sorts_nodup, List.pairwise_singleton _ _, ?_⟩
          rintro name hname _ hfield rfl
          obtain ⟨sort, hsort, rfl⟩ := List.mem_map.mp hname
          rw [List.mem_singleton] at hfield
          exact hknown (List.any_eq_true.mpr ⟨sort, hsort, beq_iff_eq.mpr hfield⟩)
    · exact h
  · rw [if_neg hsortable]
    exact h

/-- A count that was read fits in the column type it is bound as. -/
theorem le_of_rowCount? {raw : String} {n : Nat} (h : Intake.rowCount? raw = some n) :
    n ≤ Sql.largestBigInt := by
  unfold Intake.rowCount? at h
  cases hread : Text.readNat Sql.largestBigInt (Text.trim raw.toList) with
  | error e =>
    rw [hread] at h
    cases h
  | ok m =>
    rw [hread] at h
    cases h
    exact Text.readNat_le hread

theorem admits_setOffset (h : policy.Admits intake.params) (raw : String) :
    policy.Admits (intake.setOffset raw).params := by
  unfold Intake.setOffset
  split
  · rename_i offset hoffset
    exact { h with offset_le := le_of_rowCount? hoffset }
  · exact h

theorem admits_setLimit (h : policy.Admits intake.params) (raw : String) :
    policy.Admits (intake.setLimit policy raw).params := by
  unfold Intake.setLimit
  split
  · rename_i limit hlimit
    obtain ⟨asked, _, hmin⟩ := Option.map_eq_some_iff.mp hlimit
    refine { h with one_le_limit := Nat.le_add_left 1 limit, limit_le := ?_ }
    show limit + 1 ≤ policy.limits.most
    omega
  · exact h

/-- Whatever pair of a query comes, the policy goes on to admit the parameters. -/
theorem admits_addPair (h : policy.Admits intake.params) (key value : String) :
    policy.Admits (intake.addPair policy key value).params := by
  unfold Intake.addPair
  by_cases hoffset : key = "offset"
  · rw [if_pos hoffset]
    exact admits_setOffset h value
  · rw [if_neg hoffset]
    by_cases hlimit : key = "limit"
    · rw [if_pos hlimit]
      exact admits_setLimit h value
    · rw [if_neg hlimit]
      split
      · exact admits_addSort h _ value
      · exact admits_addFilter h _

-- The induction is on the pairs, from any intake that is within the policy already.
theorem admits_ofPairs (hlimits : policy.limits.Valid) (pairs : List (String × String)) :
    policy.Admits (Intake.ofPairs policy pairs).params := by
  have hfrom : ∀ intake : Intake, policy.Admits intake.params →
      policy.Admits (pairs.foldl
        (fun intake pair => intake.addPair policy pair.1 pair.2) intake).params := by
    induction pairs with
    | nil => exact fun intake h => h
    | cons pair pairs ih => exact fun intake h => ih _ (admits_addPair h pair.1 pair.2)
  exact hfrom (Intake.start policy) (admits_start hlimits)

end Policy

end Daybook.Listing
