import Daybook.Proofs.Except
import Daybook.Proofs.Listing.Parts

/-!
# Pairs of different kinds

The pairs of a query string are of four kinds, and those of one kind are taken in as if there were
no others: all filters, the first sort by each field, the last offset and the last limit that can be
read.  How the kinds are mixed makes no difference.
-/

namespace Daybook.Listing

def pairsOf (kind : PairKind) (pairs : List (String × String)) : List (String × String) :=
  pairs.filter fun pair => keyKind pair.1 = kind

/-! ## What the pairs of a kind say -/

namespace Policy

variable (policy : Policy) (pairs : List (String × String))

def filtersOf : List Filter :=
  (pairsOf .filter pairs).filterMap fun (key, value) =>
    (Filter.read policy.allow (key ++ "=" ++ value)).toOption

-- The sorts that can be read, those of one field more than once.
def sortsOf : List SortField :=
  (pairsOf .sort pairs).filterMap fun (key, value) =>
    (SortField.read policy.allow (sortedField key) value).toOption

def offsetsOf : List Nat :=
  (pairsOf .offset pairs).filterMap fun (_, value) => (readOffset value).toOption

def limitsOf : List Nat :=
  (pairsOf .limit pairs).filterMap fun (_, value) => (policy.limits.read value).toOption

end Policy

/-! ## Runs of readings -/

def rejection? : Except Rejection Part → Option Rejection
  | .ok _ => none
  | .error rejection => some rejection

namespace Intake

variable (intake : Intake) (readings : List (Except Rejection Part))

/-- Parts that could be read are accepted one after the other. -/
theorem params_foldl_settle :
    (readings.foldl settle intake).params =
      (readings.filterMap Except.toOption).foldl Params.accept intake.params := by
  induction readings generalizing intake with
  | nil => rfl
  | cons reading readings ih =>
    rw [List.foldl_cons, ih]
    cases reading <;> rfl

/-- Parts that could not be read leave their rejections, in order. -/
theorem rejections_foldl_settle :
    (readings.foldl settle intake).rejections =
      intake.rejections ++ readings.filterMap rejection? := by
  induction readings generalizing intake with
  | nil => exact (List.append_nil _).symm
  | cons reading readings ih =>
    rw [List.foldl_cons, ih]
    cases reading with
    | ok part => rfl
    | error rejection => exact List.append_assoc _ [rejection] _

end Intake

/-! ## Runs of parts -/

namespace Part

def filter? : Part → Option Filter
  | filter wanted => some wanted
  | _ => none

def sort? : Part → Option SortField
  | sort wanted => some wanted
  | _ => none

def offset? : Part → Option Nat
  | offset rows => some rows
  | _ => none

def limit? : Part → Option Nat
  | limit rows => some rows
  | _ => none

end Part

-- A part of one kind leaves what the others are put together to alone.
theorem foldl_accept (parts : List Part) (params : Params) :
    parts.foldl Params.accept params = {
      filters := params.filters ++ parts.filterMap Part.filter?
      sorts := (parts.filterMap Part.sort?).foldl addSorted params.sorts
      offset := (parts.filterMap Part.offset?).getLast?.getD params.offset
      limit := (parts.filterMap Part.limit?).getLast?.getD params.limit } := by
  induction parts generalizing params with
  | nil => simp
  | cons part parts ih =>
    rw [List.foldl_cons, ih]
    cases part <;>
      simp [Params.accept, List.filterMap_cons, Part.filter?, Part.sort?, Part.offset?, Part.limit?,
        List.getLast?_cons]

def sameField (later earlier : SortField) : Bool := later.field == earlier.field

-- Of the sorts to come only those by new fields count, and of these the first by each field.
theorem foldl_addSorted (sorts known : List SortField) :
    sorts.foldl addSorted known =
      known ++ (sorts.filter fun sort => !known.any (sameField sort)).eraseDupsBy sameField := by
  induction sorts generalizing known with
  | nil => exact (List.append_nil known).symm
  | cons sort sorts ih =>
    have hany : (known.any fun other => other.field == sort.field) = known.any (sameField sort) :=
      congrArg known.any (funext fun other => BEq.comm)
    rw [List.foldl_cons, ih, addSorted, hany]
    cases hknown : known.any (sameField sort) with
    | true => rw [if_pos rfl, List.filter_cons_of_neg (by simp [hknown])]
    | false =>
      rw [if_neg Bool.false_ne_true, List.filter_cons_of_pos (by simp [hknown]),
        List.eraseDupsBy_cons, List.filter_filter, List.append_assoc, List.singleton_append]
      congr 3
      apply List.filter_congr
      intro other _
      simp [Bool.and_comm]

/-! ## Kinds of pairs -/

/-- Pairs that agree kind by kind are the same up to their order. -/
theorem perm_of_pairsOf {pairs others : List (String × String)}
    (h : ∀ kind, pairsOf kind pairs = pairsOf kind others) : pairs.Perm others := by
  apply List.perm_iff_count.mpr
  intro pair
  have hkind : ∀ list, (pairsOf (keyKind pair.1) list).count pair = list.count pair :=
    fun list => List.count_filter (decide_eq_true rfl)
  rw [← hkind pairs, ← hkind others, h]

namespace Policy

variable (policy : Policy) (pairs : List (String × String))

-- What the pairs of a query string say, as far as they can be read.
def parts : List Part := (policy.readings pairs).filterMap Except.toOption

theorem filterMap_parts {α : Type} (kind : PairKind) (get : Part → Option α)
    (read : String × String → Option α)
    (h : ∀ pair, (policy.read (.ofPair pair.1 pair.2)).toOption.bind get =
      if keyKind pair.1 = kind then read pair else none) :
    (policy.parts pairs).filterMap get = (pairsOf kind pairs).filterMap read := by
  rw [parts, readings, List.filterMap_map, List.filterMap_filterMap, pairsOf,
    List.filterMap_filter]
  simp only [decide_eq_true_eq, ← h]
  rfl

theorem parts_by_kind :
    (policy.parts pairs).filterMap Part.filter? = policy.filtersOf pairs ∧
      (policy.parts pairs).filterMap Part.sort? = policy.sortsOf pairs ∧
      (policy.parts pairs).filterMap Part.offset? = offsetsOf pairs ∧
      (policy.parts pairs).filterMap Part.limit? = policy.limitsOf pairs := by
  refine ⟨?_, ?_, ?_, ?_⟩ <;> apply filterMap_parts <;> rintro ⟨key, value⟩ <;>
    rw [Entry.ofPair] <;> cases keyKind key <;>
    simp [Policy.read, toOption_map, Option.bind_map, Function.comp_def, Part.filter?, Part.sort?,
      Part.offset?, Part.limit?]

/-- What comes out of all pairs, kind by kind. -/
theorem params_ofPairs :
    (Intake.ofPairs policy pairs).params = {
      filters := policy.filtersOf pairs
      sorts := (policy.sortsOf pairs).eraseDupsBy sameField
      offset := (offsetsOf pairs).getLast?.getD 0
      limit := (policy.limitsOf pairs).getLast?.getD policy.limits.standard } := by
  obtain ⟨hfilters, hsorts, hoffsets, hlimits⟩ := policy.parts_by_kind pairs
  have hnew : (policy.sortsOf pairs).filter (fun sort => !List.any [] (sameField sort)) =
      policy.sortsOf pairs := List.filter_eq_self.mpr fun _ _ => rfl
  rw [ofPairs_eq_foldl, Intake.params_foldl_settle, ← parts, foldl_accept, hfilters, hsorts,
    hoffsets, hlimits, Intake.start, foldl_addSorted, hnew]
  rfl

theorem rejections_ofPairs :
    (Intake.ofPairs policy pairs).rejections =
      pairs.filterMap fun (key, value) => rejection? (policy.read (.ofPair key value)) := by
  rw [ofPairs_eq_foldl, Intake.rejections_foldl_settle, readings, List.filterMap_map]
  rfl

/-- The filters of a request are all that can be read, in order.  It is sorted by each field as its
first sort that can be read says, in the order in which the fields come up.  Its offset and limit
are the last ones that can be read, and the standard ones if there are none.  So the parameters
depend only on the pairs of each kind by themselves, and mixing the kinds in another way only mixes
the rejections in another way. -/
theorem ofPairs_of_kinds :
    (Intake.ofPairs policy pairs).params = {
      filters := policy.filtersOf pairs
      sorts := (policy.sortsOf pairs).eraseDupsBy sameField
      offset := (offsetsOf pairs).getLast?.getD 0
      limit := (policy.limitsOf pairs).getLast?.getD policy.limits.standard } ∧
    ∀ others, (∀ kind, pairsOf kind pairs = pairsOf kind others) →
      (Intake.ofPairs policy pairs).params = (Intake.ofPairs policy others).params ∧
      (Intake.ofPairs policy pairs).rejections.Perm (Intake.ofPairs policy others).rejections := by
  refine ⟨policy.params_ofPairs pairs, fun others h => ⟨?_, ?_⟩⟩
  · rw [params_ofPairs, params_ofPairs]
    simp only [filtersOf, sortsOf, offsetsOf, limitsOf, h]
  · rw [rejections_ofPairs, rejections_ofPairs]
    exact (perm_of_pairsOf h).filterMap _

end Policy

def memberPolicy : Policy where
  allow := { filters := [⟨"name", [.eq], .text⟩, ⟨"age", [.gt], .integer⟩], sorts := ["name"] }

def memberPairs : List (String × String) :=
  [("offset", "40"), ("sort:name", "desc"), ("name:eq", "Ada"), ("limit", "7"), ("age:gt", "old"),
    ("sort:name", "asc"), ("offset", "-1"), ("age:gt", "30"), ("limit", "0")]

def memberPairsByKind : List (String × String) :=
  [("limit", "7"), ("limit", "0"), ("offset", "40"), ("offset", "-1"), ("sort:name", "desc"),
    ("sort:name", "asc"), ("name:eq", "Ada"), ("age:gt", "old"), ("age:gt", "30")]

/-- A second sort by a field is passed over, and an offset or limit that cannot be read leaves the
one before it in force. -/
theorem ofPairs_of_member_kinds :
    (∀ kind, pairsOf kind memberPairs = pairsOf kind memberPairsByKind) ∧
      (Intake.ofPairs memberPolicy memberPairsByKind).params = {
        filters := [⟨"name", .eq, [.text "Ada"]⟩, ⟨"age", .gt, [.integer 30]⟩]
        sorts := [⟨"name", .desc⟩]
        offset := 40
        limit := 7 } ∧
      (Intake.ofPairs memberPolicy memberPairsByKind).rejections.Perm [
        .invalidValue "age" "old", .invalidPagination "offset" "-1",
        .invalidPagination "limit" "0"] := by
  have hkinds : ∀ kind, pairsOf kind memberPairs = pairsOf kind memberPairsByKind := by
    intro kind
    cases kind <;> decide +kernel
  obtain ⟨hparams, hothers⟩ := memberPolicy.ofPairs_of_kinds memberPairs
  obtain ⟨hsame, hrejections⟩ := hothers memberPairsByKind hkinds
  refine ⟨hkinds, hsame.symm.trans (hparams.trans ?_), hrejections.symm.trans ?_⟩
  · decide +kernel
  · have hmixed : (Intake.ofPairs memberPolicy memberPairs).rejections = [
        .invalidValue "age" "old", .invalidPagination "offset" "-1",
        .invalidPagination "limit" "0"] := by
      decide +kernel
    rw [hmixed]

end Daybook.Listing
