import Daybook.Listing.Intake
import Daybook.Proofs.Listing.ListGrammar

/-!
# The grammar of filter tokens

Which tokens are filters, and which filters they are.  A token is told by its parts: a key and a
value, and in the key a field and an operator.
-/

namespace Daybook.Listing

/-! ## Parts of a token -/

/-- The key is a field and the name of an operator with a colon between, and no other colon. -/
structure IsKey (key field name : String) : Prop where
  eq : key = field ++ ":" ++ name
  field_ne : field ≠ ""
  name_ne : name ≠ ""
  colon_notMem_field : ':' ∉ field.toList
  colon_notMem_name : ':' ∉ name.toList

/-- The token is a key and a value on the two sides of its first equals sign. -/
structure IsToken (token key raw : String) : Prop where
  eq : token = key ++ "=" ++ raw
  equals_notMem : '=' ∉ key.toList

/-- The three parts of a token: its key is the field and the name, and its value is what follows. -/
def HasParts (token field name raw : String) : Prop :=
  ∃ key, IsToken token key raw ∧ IsKey key field name

variable {token key field name raw : String}

/-- A token is divided at its first equals sign. -/
theorem isToken_iff :
    IsToken token key raw ↔ Text.cut? '=' token.toList = some (key.toList, raw.toList) := by
  rw [Text.cut?_eq_some_iff]
  constructor
  · rintro ⟨rfl, hequals⟩
    exact ⟨by simp, hequals⟩
  · rintro ⟨heq, hequals⟩
    refine ⟨String.toList_inj.mp ?_, hequals⟩
    rw [heq]
    simp

/-- A key has two parts, and neither is empty. -/
theorem isKey_iff : IsKey key field name ↔
    Text.pieces ':' key.toList = [field.toList, name.toList] ∧ field ≠ "" ∧ name ≠ "" := by
  constructor
  · rintro ⟨rfl, hfield, hname, hcolon, hcolon'⟩
    refine ⟨?_, hfield, hname⟩
    have hkey : (field ++ ":" ++ name).toList = field.toList ++ ':' :: name.toList := by simp
    rw [hkey, Text.pieces_append_cons hcolon, Text.pieces_of_notMem hcolon']
  · rintro ⟨hpieces, hfield, hname⟩
    refine ⟨String.toList_inj.mp ?_, hfield, hname, ?_, ?_⟩
    · rw [← Text.intercalate_pieces ':' key.toList, hpieces]
      simp
    · exact Text.not_mem_of_mem_pieces (hpieces ▸ List.mem_cons_self)
    · exact Text.not_mem_of_mem_pieces
        (hpieces ▸ List.mem_cons_of_mem _ List.mem_cons_self)

/-- A token is split just when the grammar gives it these parts. -/
theorem splitToken?_eq_some_iff :
    splitToken? token.toList = some (field, name, raw.toList) ↔ HasParts token field name raw := by
  constructor
  · intro h
    rw [splitToken?] at h
    split at h
    · cases h
    · rename_i key value hcut
      split at h
      · rename_i f n hpieces
        obtain ⟨hne, h⟩ := Option.ite_none_left_eq_some.mp h
        simp only [Option.some.injEq, Prod.mk.injEq] at h
        obtain ⟨rfl, rfl, rfl⟩ := h
        refine ⟨String.ofList key, isToken_iff.mpr ?_, isKey_iff.mpr ⟨?_, ?_, ?_⟩⟩
        · rw [hcut, String.toList_ofList]
        · rw [String.toList_ofList, String.toList_ofList, String.toList_ofList, hpieces]
        · exact mt String.ofList_eq_empty_iff.mp (not_or.mp hne).1
        · exact mt String.ofList_eq_empty_iff.mp (not_or.mp hne).2
      · cases h
  · rintro ⟨key, htoken, hkey⟩
    obtain ⟨hpieces, hfield, hname⟩ := isKey_iff.mp hkey
    rw [splitToken?, isToken_iff.mp htoken]
    simp only [hpieces]
    rw [if_neg (by simp [hfield, hname]), String.ofList_toList, String.ofList_toList]

/-- A token that is not split has no parts. -/
theorem exists_hasParts_or_splitToken?_eq_none (token : String) :
    (∃ field name raw, HasParts token field name raw) ∨ splitToken? token.toList = none := by
  cases hsplit : splitToken? token.toList with
  | none => exact .inr rfl
  | some parts =>
    obtain ⟨field, name, raw⟩ := parts
    refine .inl ⟨field, name, String.ofList raw, splitToken?_eq_some_iff.mp ?_⟩
    rw [hsplit, String.toList_ofList]

/-! ## Entries of an allow-list -/

namespace AllowList

variable {allow : AllowList} {allowed : AllowedFilter}

def FirstEntry (allow : AllowList) (allowed : AllowedFilter) : Prop :=
  ∃ before after, allow.filters = before ++ allowed :: after ∧
    ∀ other ∈ before, other.field ≠ allowed.field

/-- Of entries for one field the first is found. -/
theorem filter?_eq_some_iff :
    allow.filter? field = some allowed ↔ allow.FirstEntry allowed ∧ allowed.field = field := by
  rw [filter?, List.find?_eq_some_iff_append, and_comm, beq_iff_eq]
  refine and_congr_left fun heq => ?_
  rw [← heq]
  simp [FirstEntry]

theorem filter?_eq_none_iff :
    allow.filter? field = none ↔ ∀ allowed ∈ allow.filters, allowed.field ≠ field := by
  simp [filter?]

end AllowList

namespace Operator

theorem ofWireName?_eq_some_iff {operator : Operator} :
    ofWireName? name = some operator ↔ operator.wireName = name :=
  ⟨wireName_of_ofWireName?, fun h => h ▸ ofWireName?_wireName operator⟩

theorem ofWireName?_eq_none_iff :
    ofWireName? name = none ↔ ∀ operator : Operator, operator.wireName ≠ name := by
  rw [Option.eq_none_iff_forall_ne_some]
  exact forall_congr' fun operator => not_congr ofWireName?_eq_some_iff

end Operator

/-! ## What a token is taken as -/

/-- The allow-list takes a key and a value as this filter: the key names a field and an operator,
the first entry for the field permits the operator, and the value says the filter's values. -/
inductive AllowList.Takes (allow : AllowList) (key raw : String) : Filter → Prop
  | intro {allowed : AllowedFilter} {operator : Operator} {values : List FieldValue}
    (hkey : IsKey key allowed.field operator.wireName) (hfirst : allow.FirstEntry allowed)
    (hpermits : operator ∈ allowed.operators)
    (hreads : allowed.kind.Reads operator raw.toList values) :
    allow.Takes key raw ⟨allowed.field, operator, values⟩

/-! ## Reading a token -/

/-- The grammar divides a token in one way only. -/
theorem HasParts.unique {field' name' raw' : String} (h : HasParts token field name raw)
    (h' : HasParts token field' name' raw') : field = field' ∧ name = name' ∧ raw = raw' := by
  have heq := (splitToken?_eq_some_iff.mpr h).symm.trans (splitToken?_eq_some_iff.mpr h')
  simpa [String.toList_inj] using heq

/-- A token is for one entry, one operator and one text. -/
theorem AllowList.entry_unique {allow : AllowList} {allowed other : AllowedFilter}
    {operator operator' : Operator} {raw' : String}
    (hparts : HasParts token allowed.field operator.wireName raw)
    (hfirst : allow.FirstEntry allowed)
    (hparts' : HasParts token other.field operator'.wireName raw')
    (hfirst' : allow.FirstEntry other) : allowed = other ∧ operator = operator' ∧ raw = raw' := by
  obtain ⟨hfield, hname, hraw⟩ := hparts.unique hparts'
  have hallowed := filter?_eq_some_iff.mpr ⟨hfirst, hfield⟩
  have hoperator := Operator.ofWireName?_eq_some_iff.mpr hname
  rw [filter?_eq_some_iff.mpr ⟨hfirst', rfl⟩] at hallowed
  rw [Operator.ofWireName?_wireName] at hoperator
  exact ⟨(Option.some.inj hallowed).symm, (Option.some.inj hoperator).symm, hraw⟩

/-- How reading a token ends.  Each end but the first relies on what was found on the way to it. -/
inductive Filter.Reading (allow : AllowList) (token : String) : Except Rejection Filter → Prop
  | malformedToken (h : ∀ field name raw, ¬HasParts token field name raw) :
    Reading allow token (.error (.malformedToken token))
  | unknownField {field name raw : String} (hparts : HasParts token field name raw)
    (h : allow.filter? field = none) :
    Reading allow token (.error (.unknownField field))
  | unknownOperator {allowed : AllowedFilter} {name raw : String}
    (hparts : HasParts token allowed.field name raw) (hfirst : allow.FirstEntry allowed)
    (h : Operator.ofWireName? name = none) :
    Reading allow token (.error (.unknownOperator name))
  | operatorNotAllowed {allowed : AllowedFilter} {operator : Operator} {raw : String}
    (hparts : HasParts token allowed.field operator.wireName raw)
    (hfirst : allow.FirstEntry allowed)
    (h : operator ∉ allowed.operators) :
    Reading allow token (.error (.operatorNotAllowed allowed.field operator))
  | invalidValue {allowed : AllowedFilter} {operator : Operator} {raw : String}
    (hparts : HasParts token allowed.field operator.wireName raw)
    (hfirst : allow.FirstEntry allowed)
    (hpermits : operator ∈ allowed.operators)
    (h : allowed.kind.readAll? operator raw.toList = none) :
    Reading allow token (.error (.invalidValue allowed.field raw))
  | filter {allowed : AllowedFilter} {operator : Operator} {raw : String}
    {values : List FieldValue} (hparts : HasParts token allowed.field operator.wireName raw)
    (hfirst : allow.FirstEntry allowed) (hpermits : operator ∈ allowed.operators)
    (hreads : allowed.kind.readAll? operator raw.toList = some values) :
    Reading allow token (.ok ⟨allowed.field, operator, values⟩)

/-- Reading a token ends in one of the ways that the grammar has. -/
theorem Filter.reading_read (allow : AllowList) (token : String) :
    Reading allow token (Filter.read allow token) := by
  rw [Filter.read]
  obtain ⟨field, name, raw, hparts⟩ | hnone := exists_hasParts_or_splitToken?_eq_none token
  · rw [splitToken?_eq_some_iff.mpr hparts]
    -- The checks come one after the other, so each way to end has passed those before it.
    cases hallowed : allow.filter? field with
    | none =>
      simp only [hallowed]
      exact .unknownField hparts hallowed
    | some allowed =>
      obtain ⟨hfirst, rfl⟩ := AllowList.filter?_eq_some_iff.mp hallowed
      cases hoperator : Operator.ofWireName? name with
      | none =>
        simp only [hallowed, hoperator]
        exact .unknownOperator hparts hfirst hoperator
      | some operator =>
        obtain rfl := Operator.ofWireName?_eq_some_iff.mp hoperator
        simp only [hallowed, hoperator]
        by_cases hpermits : allowed.permits operator
        · have hmem := List.contains_iff_mem.mp hpermits
          rw [if_pos hpermits]
          cases hvalues : allowed.kind.readAll? operator raw.toList with
          | none =>
            simp only [String.ofList_toList]
            exact .invalidValue hparts hfirst hmem hvalues
          | some values => exact .filter hparts hfirst hmem hvalues
        · rw [if_neg hpermits]
          exact .operatorNotAllowed hparts hfirst (mt List.contains_iff_mem.mpr hpermits)
  · rw [hnone]
    refine .malformedToken fun field name raw hparts => ?_
    rw [splitToken?_eq_some_iff.mpr hparts] at hnone
    cases hnone

/-- A filter is read just when the token takes it. -/
theorem Filter.read_eq_ok_iff {allow : AllowList} {filter : Filter} :
    Filter.read allow token = .ok filter ↔
      ∃ key raw, IsToken token key raw ∧ allow.Takes key raw filter := by
  constructor
  · intro h
    have hreading := h ▸ reading_read allow token
    cases hreading with
    | filter hparts hfirst hpermits hvalues =>
      obtain ⟨key, htoken, hkey⟩ := hparts
      have hreads := FieldKind.readAll?_eq_some_iff.mp hvalues
      exact ⟨key, _, htoken, .intro hkey hfirst hpermits hreads⟩
  · rintro ⟨key, raw, htoken, ⟨hkey, hfirst, hpermits, hreads⟩⟩
    have hparts : HasParts token _ _ raw := ⟨key, htoken, hkey⟩
    rw [Filter.read, splitToken?_eq_some_iff.mpr hparts]
    simp only [AllowList.filter?_eq_some_iff.mpr ⟨hfirst, rfl⟩, Operator.ofWireName?_wireName,
      AllowedFilter.permits, List.contains_iff_mem.mpr hpermits,
      FieldKind.readAll?_eq_some_iff.mpr hreads, if_true]

end Daybook.Listing
