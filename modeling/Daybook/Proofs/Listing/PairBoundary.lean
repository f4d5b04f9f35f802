import Daybook.Proofs.Listing.Objections
import Daybook.Proofs.Listing.Parts

/-!
# Keys and values of a query string

A pair that is neither of the page nor of a sort is put together into a token, and the token is
divided again at its first equals sign.  So the boundary of the pair is found again, unless there is
an equals sign in the key: then the key ends there, and the rest of it goes to the value.
-/

namespace Daybook.Listing

variable {token key name more value raw : String}

/-- A token is divided in one way only. -/
theorem IsToken.unique {key' raw' : String} (h : IsToken token key raw)
    (h' : IsToken token key' raw') : key = key' ∧ raw = raw' := by
  have heq := (isToken_iff.mp h).symm.trans (isToken_iff.mp h')
  simpa [String.toList_inj] using heq

-- A key that is itself divided gives its second part to the value.
theorem IsToken.append (h : IsToken key name more) (value : String) :
    IsToken (key ++ "=" ++ value) name (more ++ "=" ++ value) := by
  refine ⟨?_, h.equals_notMem⟩
  rw [h.eq]
  simp only [String.append_assoc]

/-- The key of a filter is made of its field and its operator. -/
theorem AllowList.Takes.key_eq {allow : AllowList} {filter : Filter}
    (h : allow.Takes key raw filter) : key = filter.field ++ ":" ++ filter.operator.wireName := by
  obtain ⟨hkey, -, -, -⟩ := h
  exact hkey.eq

namespace Intake

variable (policy : Policy) (intake : Intake)

/-- The pair is joined with an equals sign and read like any token. -/
theorem addPair_of_filter (hkind : keyKind key = .filter) (value : String) :
    intake.addPair policy key value = intake.addFilter policy (key ++ "=" ++ value) := by
  rw [addPair_eq, addFilter_eq, Entry.ofPair, hkind]

variable {policy} {intake}

/-- The pair adds a filter just when the parts of the joined token take it. -/
theorem addPair_eq_withFilter_iff {filter : Filter} (hkind : keyKind key = .filter)
    (htoken : IsToken (key ++ "=" ++ value) name raw) :
    intake.addPair policy key value = intake.withFilter filter ↔
      policy.allow.Takes name raw filter := by
  rw [addPair_of_filter policy intake hkind, addFilter_eq_withFilter_iff]
  constructor
  · rintro ⟨name', raw', htoken', htakes⟩
    obtain ⟨rfl, rfl⟩ := htoken.unique htoken'
    exact htakes
  · intro htakes
    exact ⟨name, raw, htoken, htakes⟩

theorem exists_addPair_eq_reject (hkind : keyKind key = .filter)
    (htoken : IsToken (key ++ "=" ++ value) name raw)
    (h : ∀ filter, ¬policy.allow.Takes name raw filter) :
    ∃ rejection, intake.addPair policy key value = intake.reject rejection := by
  rw [addPair_of_filter policy intake hkind, addFilter]
  cases hresult : Filter.read policy.allow (key ++ "=" ++ value) with
  | error rejection => exact ⟨rejection, rfl⟩
  | ok filter =>
    obtain ⟨name', raw', htoken', htakes⟩ := Filter.read_eq_ok_iff.mp hresult
    obtain ⟨rfl, rfl⟩ := htoken.unique htoken'
    exact absurd htakes (h filter)

/-- The pair goes in as a key and a value: it is taken as the filter that the allow-list takes them
for, or else it is dropped for one reason. -/
structure PairGoesAs (policy : Policy) (intake : Intake) (pair : String × String)
    (key value : String) : Prop where
  withFilter_iff : ∀ filter, intake.addPair policy pair.1 pair.2 = intake.withFilter filter ↔
    policy.allow.Takes key value filter
  reject : (∀ filter, ¬policy.allow.Takes key value filter) →
    ∃ rejection, intake.addPair policy pair.1 pair.2 = intake.reject rejection

theorem pairGoesAs_of_isToken (hkind : keyKind key = .filter)
    (htoken : IsToken (key ++ "=" ++ value) name raw) :
    PairGoesAs policy intake (key, value) name raw where
  withFilter_iff _ := addPair_eq_withFilter_iff hkind htoken
  reject := exists_addPair_eq_reject hkind htoken

-- No filter is taken for both a key and the first part of it.
theorem pairGoesAs_self_iff (hkind : keyKind key = .filter) (hdivided : IsToken key name more) :
    PairGoesAs policy intake (key, value) key value ↔
      ∀ filter, ¬policy.allow.Takes key value filter ∧
        ¬policy.allow.Takes name (more ++ "=" ++ value) filter := by
  have htoken := hdivided.append value
  constructor
  · intro h filter
    have hiff : policy.allow.Takes key value filter ↔
        policy.allow.Takes name (more ++ "=" ++ value) filter :=
      (h.withFilter_iff filter).symm.trans (addPair_eq_withFilter_iff hkind htoken)
    -- Taken as it stands, the key would be its own first part, which has no equals sign.
    have hkey : ¬policy.allow.Takes key value filter := by
      intro htakes
      have heq : key = name := htakes.key_eq.trans (hiff.mp htakes).key_eq.symm
      apply hdivided.equals_notMem
      rw [← heq, hdivided.eq]
      simp
    exact ⟨hkey, mt hiff.mpr hkey⟩
  · intro h
    refine ⟨fun filter => ?_, fun _ => ?_⟩
    · rw [addPair_eq_withFilter_iff hkind htoken]
      exact iff_of_false (h filter).2 (h filter).1
    · exact exists_addPair_eq_reject hkind htoken fun filter => (h filter).2

/-- A pair for a filter goes in as its own key and value if the key is free of equals signs, and no
two such keys give filters on one field with one operator.  A key with an equals sign is cut there.
Then the pair goes in as itself only if nothing is taken, neither for it nor for its two cuts. -/
theorem addPair_by_boundary (policy : Policy) (intake : Intake) {key : String} (value : String)
    (hkind : keyKind key = .filter) :
    ('=' ∉ key.toList → PairGoesAs policy intake (key, value) key value) ∧
      (∀ other value' filter filter', '=' ∉ key.toList → '=' ∉ other.toList →
        keyKind other = .filter → intake.addPair policy key value = intake.withFilter filter →
        intake.addPair policy other value' = intake.withFilter filter' →
        filter.field = filter'.field → filter.operator = filter'.operator → key = other) ∧
      ∀ name more, IsToken key name more →
        PairGoesAs policy intake (key, value) name (more ++ "=" ++ value) ∧
          (PairGoesAs policy intake (key, value) key value ↔
            ∀ filter, ¬policy.allow.Takes key value filter ∧
              ¬policy.allow.Takes name (more ++ "=" ++ value) filter) := by
  refine ⟨fun hequals => pairGoesAs_of_isToken hkind ⟨rfl, hequals⟩, ?_, fun name more hdivided =>
    ⟨pairGoesAs_of_isToken hkind (hdivided.append value), pairGoesAs_self_iff hkind hdivided⟩⟩
  intro other value' filter filter' hequals hequals' hkind' hadd hadd' hfield hoperator
  have htakes := (addPair_eq_withFilter_iff hkind ⟨rfl, hequals⟩).mp hadd
  have htakes' := (addPair_eq_withFilter_iff hkind' ⟨rfl, hequals'⟩).mp hadd'
  rw [htakes.key_eq, htakes'.key_eq, hfield, hoperator]

/-- An equals sign in the value stays there, and one in the key makes the rest of the key part of
the value. -/
theorem addPair_by_boundary_of_names :
    let policy : Policy := { allow := ⟨[⟨"name", [.eq], .text⟩], []⟩ }
    let intake := Intake.start policy
    keyKind "name:eq" = .filter ∧ '=' ∉ "name:eq".toList ∧
      PairGoesAs policy intake ("name:eq", "x=y") "name:eq" "x=y" ∧
      keyKind "name:eq=x" = .filter ∧ IsToken "name:eq=x" "name:eq" "x" ∧
      PairGoesAs policy intake ("name:eq=x", "y") "name:eq" "x=y" := by
  intro policy intake
  have hkind : keyKind "name:eq" = .filter := by decide
  have hequals : '=' ∉ "name:eq".toList := by decide
  have hkind' : keyKind "name:eq=x" = .filter := by decide
  have hdivided : IsToken "name:eq=x" "name:eq" "x" := ⟨by decide, hequals⟩
  have hvalue : "x" ++ "=" ++ "y" = "x=y" := by decide
  refine ⟨hkind, hequals, (addPair_by_boundary policy intake "x=y" hkind).1 hequals, hkind',
    hdivided, ?_⟩
  rw [← hvalue]
  exact ((addPair_by_boundary policy intake "y" hkind').2.2 "name:eq" "x" hdivided).1

/-- Two keys give one filter: the boundary of the first pair is not where it was. -/
theorem addPair_with_equals_in_key :
    let policy : Policy := { allow := ⟨[⟨"name", [.eq], .text⟩], []⟩ }
    let intake := Intake.start policy
    let filter : Filter := ⟨"name", .eq, [.text "x=y"]⟩
    keyKind "name:eq=x" = .filter ∧
      intake.addPair policy "name:eq=x" "y" = intake.withFilter filter ∧
      intake.addPair policy "name:eq" "x=y" = intake.withFilter filter ∧
      ¬PairGoesAs policy intake ("name:eq=x", "y") "name:eq=x" "y" := by
  intro policy intake filter
  have hadd : intake.addPair policy "name:eq=x" "y" = intake.withFilter filter := by decide
  refine ⟨by decide, hadd, by decide, fun h => ?_⟩
  have hkey := ((h.withFilter_iff filter).mp hadd).key_eq
  exact absurd hkey (by decide)

end Intake

end Daybook.Listing
