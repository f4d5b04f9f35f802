import Daybook.Amount
import Mathlib.Algebra.BigOperators.Group.List.Basic
import Mathlib.Algebra.Ring.Int.Defs

/-!
# Sums of amounts

What a clamped sum is in exact integers.  A sum of amounts none of which is negative only grows, so
it is clamped at the top of the range or not at all.  A sum that never leaves the range is exact.
-/

namespace Daybook.Amount

/-- The number is an amount as it stands, so clamping leaves it alone. -/
def Fits (n : Int) : Prop := smallest ≤ n ∧ n ≤ largest

instance (n : Int) : Decidable (Fits n) := inferInstanceAs (Decidable (_ ∧ _))

/-- Every amount is in range, so only the numbers on the way to one can be out of it. -/
theorem fits_toInt (a : Amount) : Fits a.toInt :=
  ⟨a.smallest_le_toInt, a.toInt_le_largest⟩

theorem toInt_clamp_of_fits {n : Int} (h : Fits n) : (clamp n).toInt = n :=
  toInt_clamp_of_le h.1 h.2

/-! ## Exact sums -/

def exactSum (amounts : List Amount) : Int :=
  (amounts.map Int64.toInt).sum

@[simp] theorem exactSum_nil : exactSum [] = 0 := rfl

@[simp] theorem exactSum_cons (a : Amount) (amounts : List Amount) :
    exactSum (a :: amounts) = a.toInt + exactSum amounts := by
  rw [exactSum, List.map_cons, List.sum_cons]
  rfl

theorem exactSum_perm {amounts others : List Amount} (h : amounts.Perm others) :
    exactSum amounts = exactSum others :=
  (h.map Int64.toInt).sum_eq

theorem exactSum_nonneg {amounts : List Amount} (h : ∀ a ∈ amounts, 0 ≤ a.toInt) :
    0 ≤ exactSum amounts := by
  induction amounts with
  | nil => exact Int.le_refl 0
  | cons a amounts ih =>
    rw [exactSum_cons]
    have hhead := h a List.mem_cons_self
    have htail := ih fun b hb => h b (List.mem_cons_of_mem a hb)
    omega

/-! ## Sums that only grow -/

-- Once the largest amount is reached, the sum stays there.
theorem toInt_foldl_add_of_nonneg {amounts : List Amount} {start : Amount}
    (hstart : 0 ≤ start.toInt) (h : ∀ a ∈ amounts, 0 ≤ a.toInt) :
    (amounts.foldl add start).toInt = min largest (start.toInt + exactSum amounts) := by
  induction amounts generalizing start with
  | nil =>
    have hrange := start.toInt_le_largest
    rw [List.foldl_nil, exactSum_nil]
    omega
  | cons a amounts ih =>
    have hhead := h a List.mem_cons_self
    have htail := exactSum_nonneg fun b hb => h b (List.mem_cons_of_mem a hb)
    have hstep := toInt_add start a
    have hadd : 0 ≤ (add start a).toInt := by
      simp only [smallest, largest] at hstep
      omega
    rw [List.foldl_cons, ih hadd fun b hb => h b (List.mem_cons_of_mem a hb), exactSum_cons, hstep]
    simp only [smallest, largest]
    omega

/-- Amounts that are not negative add up exactly or to the largest amount. -/
theorem toInt_sum_of_nonneg {amounts : List Amount} (h : ∀ a ∈ amounts, 0 ≤ a.toInt) :
    (sum amounts).toInt = min largest (exactSum amounts) := by
  have hzero : (0 : Amount).toInt = 0 := Int64.toInt_zero
  rw [sum, toInt_foldl_add_of_nonneg (Int.le_of_eq hzero.symm) h, hzero, Int.zero_add]

/-- Where no amount is negative the clamped sum, too, is the same in every order. -/
theorem sum_perm_of_nonneg {amounts others : List Amount} (h : amounts.Perm others)
    (hnonneg : ∀ a ∈ amounts, 0 ≤ a.toInt) : sum amounts = sum others := by
  rw [← Int64.toInt_inj, toInt_sum_of_nonneg hnonneg,
    toInt_sum_of_nonneg fun a ha => hnonneg a (h.mem_iff.mpr ha), exactSum_perm h]

/-! ## Sums that stay within the range -/

/-- While every sum on the way is in range nothing is clamped. -/
theorem toInt_foldl_add_of_fits {amounts : List Amount} {start : Amount}
    (h : ∀ n ∈ (amounts.map Int64.toInt).scanl (· + ·) start.toInt, Fits n) :
    (amounts.foldl add start).toInt = start.toInt + exactSum amounts := by
  induction amounts generalizing start with
  | nil => rw [List.foldl_nil, exactSum_nil, Int.add_zero]
  | cons a amounts ih =>
    rw [List.map_cons, List.scanl_cons, List.forall_mem_cons] at h
    have hadd : (add start a).toInt = start.toInt + a.toInt := by
      apply toInt_clamp_of_fits
      exact h.2 _ (by cases amounts <;> simp)
    rw [← hadd] at h
    rw [List.foldl_cons, ih h.2, hadd, exactSum_cons, Int.add_assoc]

theorem toInt_sum_of_fits {amounts : List Amount}
    (h : ∀ n ∈ (amounts.map Int64.toInt).scanl (· + ·) 0, Fits n) :
    (sum amounts).toInt = exactSum amounts := by
  rw [← Int64.toInt_zero] at h
  rw [sum, toInt_foldl_add_of_fits h, Int64.toInt_zero, Int.zero_add]

end Daybook.Amount
