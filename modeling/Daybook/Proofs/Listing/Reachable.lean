import Daybook.Proofs.Listing.Parts
import Daybook.Proofs.Listing.Soundness

/-!
# Whatever an intake is given

An intake may be given filters, sorts, offsets, limits and pairs in any order.  It stays within its
policy, and each of them either changes the one thing that it is about or is rejected.
-/

namespace Daybook.Listing

namespace Intake

/-- The intakes that there can be, starting with nothing and given one thing after another. -/
inductive Reachable (policy : Policy) : Intake → Prop
  | start : Reachable policy (start policy)
  | addFilter {intake : Intake} (h : Reachable policy intake) (token : String) :
    Reachable policy (intake.addFilter policy token)
  | addSort {intake : Intake} (h : Reachable policy intake) (field direction : String) :
    Reachable policy (intake.addSort policy field direction)
  | setOffset {intake : Intake} (h : Reachable policy intake) (raw : String) :
    Reachable policy (intake.setOffset raw)
  | setLimit {intake : Intake} (h : Reachable policy intake) (raw : String) :
    Reachable policy (intake.setLimit policy raw)
  | addPair {intake : Intake} (h : Reachable policy intake) (key value : String) :
    Reachable policy (intake.addPair policy key value)

variable {policy : Policy} {intake : Intake}

/-- Whatever calls an intake has seen, its parameters keep to the policy. -/
theorem Reachable.admits (hlimits : policy.limits.Valid) (h : Reachable policy intake) :
    policy.Admits intake.params := by
  induction h with
  | start => exact Policy.admits_start hlimits
  | addFilter _ token ih => exact Policy.admits_addFilter ih token
  | addSort _ field direction ih => exact Policy.admits_addSort ih field direction
  | setOffset _ raw ih => exact Policy.admits_setOffset ih raw
  | setLimit _ raw ih => exact Policy.admits_setLimit ih raw
  | addPair _ key value ih => exact Policy.admits_addPair ih key value

/-- What becomes of an intake that is given an entry, by what the entry says.  A field that is
sorted by already is the only case in which nothing changes at all. -/
inductive Changes (intake : Intake) : Except Rejection Part → Intake → Prop
  | rejected (rejection : Rejection) :
    Changes intake (.error rejection)
      { intake with rejections := intake.rejections ++ [rejection] }
  | filter (filter : Filter) :
    Changes intake (.ok (.filter filter))
      { intake with params.filters := intake.params.filters ++ [filter] }
  | sort {sort : SortField} (h : sort.field ∉ intake.params.sorts.map SortField.field) :
    Changes intake (.ok (.sort sort))
      { intake with params.sorts := intake.params.sorts ++ [sort] }
  | sorted {sort : SortField} (h : sort.field ∈ intake.params.sorts.map SortField.field) :
    Changes intake (.ok (.sort sort)) intake
  | offset (rows : Nat) :
    Changes intake (.ok (.offset rows)) { intake with params.offset := rows }
  | limit (rows : Nat) :
    Changes intake (.ok (.limit rows)) { intake with params.limit := rows }

/-- A sort is added unless its field is sorted by already. -/
theorem changes_sort (intake : Intake) (sort : SortField) :
    intake.Changes (.ok (.sort sort)) (intake.settle (.ok (.sort sort))) := by
  have hany : (intake.params.sorts.any fun other => other.field == sort.field) ↔
      sort.field ∈ intake.params.sorts.map SortField.field := by
    simp
  rw [settle, Params.accept, addSorted]
  by_cases hknown : intake.params.sorts.any fun other => other.field == sort.field
  · rw [if_pos hknown]
    exact .sorted (hany.mp hknown)
  · rw [if_neg hknown]
    exact .sort (mt hany.mpr hknown)

/-- Settling a result changes what this result is about, and nothing else. -/
theorem changes_settle (intake : Intake) (result : Except Rejection Part) :
    intake.Changes result (intake.settle result) := by
  cases result with
  | error rejection => exact .rejected rejection
  | ok part =>
    cases part with
    | filter filter => exact .filter filter
    | sort sort => exact intake.changes_sort sort
    | offset rows => exact .offset rows
    | limit rows => exact .limit rows

/-- Under limits that fit, an intake is within its policy whatever it has been given.  What it is
given next is rejected, and the parameters stay, or it changes its own part of the parameters, and
all that was taken in and rejected before stays. -/
theorem within_policy_of_reachable (hlimits : policy.limits.Valid) (h : Reachable policy intake) :
    policy.Admits intake.params ∧
    (∀ token, intake.Changes ((Filter.read policy.allow token).map .filter)
      (intake.addFilter policy token)) ∧
    (∀ field direction, intake.Changes ((SortField.read policy.allow field direction).map .sort)
      (intake.addSort policy field direction)) ∧
    (∀ raw, intake.Changes ((readOffset raw).map .offset) (intake.setOffset raw)) ∧
    (∀ raw, intake.Changes ((policy.limits.read raw).map .limit) (intake.setLimit policy raw)) ∧
    ∀ key value, intake.Changes (policy.read (.ofPair key value))
      (intake.addPair policy key value) := by
  refine ⟨h.admits hlimits, fun token => ?_, fun field direction => ?_, fun raw => ?_,
    fun raw => ?_, fun key value => ?_⟩
  · exact addFilter_eq policy intake token ▸ intake.changes_settle _
  · exact addSort_eq policy intake field direction ▸ intake.changes_settle _
  · exact setOffset_eq policy intake raw ▸ intake.changes_settle _
  · exact setLimit_eq policy intake raw ▸ intake.changes_settle _
  · exact addPair_eq policy intake key value ▸ intake.changes_settle _

def statusPolicy : Policy where
  allow := { filters := [⟨"status", [.eq, .anyOf], .text⟩], sorts := ["number"] }

-- A list, a sort, too long a page, and the same sort the other way round.
def statusIntake : Intake :=
  ((((start statusPolicy).addFilter statusPolicy "status:in=open,paid").addSort
    statusPolicy "number" "DESC").setLimit statusPolicy "500").addPair
      statusPolicy "sort:number" "asc"

/-- The page is cut to the longest, the second sort is passed over, and an empty page would be
rejected. -/
theorem within_policy_of_status_calls :
    statusPolicy.limits.Valid ∧ Reachable statusPolicy statusIntake ∧
      statusPolicy.Admits statusIntake.params ∧
      statusIntake.params = {
        filters := [⟨"status", .anyOf, [.text "open", .text "paid"]⟩]
        sorts := [⟨"number", .desc⟩]
        limit := 100 } ∧
      statusIntake.Changes (.ok (.sort ⟨"number", .asc⟩))
        (statusIntake.addSort statusPolicy "number" "asc") ∧
      statusIntake.Changes (.error (.invalidPagination "limit" "0"))
        (statusIntake.setLimit statusPolicy "0") := by
  have hlimits : statusPolicy.limits.Valid := ⟨by decide, by decide, by decide⟩
  have hreachable : Reachable statusPolicy statusIntake :=
    .addPair (.setLimit (.addSort (.addFilter .start _) _ _) _) _ _
  obtain ⟨hadmits, _, hsort, _, hlimit, _⟩ := within_policy_of_reachable hlimits hreachable
  exact ⟨hlimits, hreachable, hadmits, by decide +kernel, hsort "number" "asc", hlimit "0"⟩

end Intake

end Daybook.Listing
