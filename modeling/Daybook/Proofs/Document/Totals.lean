import Daybook.Document.JournalEntry
import Daybook.Proofs.Amount
import Daybook.Proofs.Document.Columns

/-!
# Totals in exact integers

What a document comes to if nothing is clamped, and when two clamped totals are equal.
-/

namespace Daybook.Document

open Amount (exactSum largest)

/-! ## Balanced journal entries

The totals of an entry are compared as they are shown, and a total beyond the largest amount is
shown as the largest amount.
-/

section

variable (header : JournalEntryHeader) {lines : List JournalLine}

/-- The debits of an entry add up exactly or to the largest amount. -/
theorem toInt_totalDebit (h : ∀ line ∈ lines, 0 ≤ line.debit.toInt) :
    (JournalEntry.of header lines).totalDebit.toInt =
      min largest (exactSum (lines.map JournalLine.debit)) :=
  Amount.toInt_sum_of_nonneg (List.forall_mem_map.mpr h)

theorem toInt_totalCredit (h : ∀ line ∈ lines, 0 ≤ line.credit.toInt) :
    (JournalEntry.of header lines).totalCredit.toInt =
      min largest (exactSum (lines.map JournalLine.credit)) :=
  Amount.toInt_sum_of_nonneg (List.forall_mem_map.mpr h)

/-- An entry is balanced by its clamped totals, not by its exact sums. -/
theorem balanced_iff_totals_eq :
    (JournalEntry.of header lines).balanced = true ↔
      (JournalEntry.of header lines).totalDebit.toInt =
        (JournalEntry.of header lines).totalCredit.toInt := by
  rw [Int64.toInt_inj]
  exact beq_iff_eq

end

/-- An entry without negative amounts is balanced exactly if its exact sums are equal, or if both
of them reach the largest amount, where the totals no longer tell them apart. -/
theorem balanced_iff_sums_agree (header : JournalEntryHeader) (lines : List JournalLine)
    (hnonneg : ∀ line ∈ lines, 0 ≤ line.debit.toInt ∧ 0 ≤ line.credit.toInt) :
    (JournalEntry.of header lines).balanced = true ↔
      exactSum (lines.map JournalLine.debit) = exactSum (lines.map JournalLine.credit) ∨
        largest ≤ exactSum (lines.map JournalLine.debit) ∧
          largest ≤ exactSum (lines.map JournalLine.credit) := by
  rw [balanced_iff_totals_eq, toInt_totalDebit header fun line hline => (hnonneg line hline).1,
    toInt_totalCredit header fun line hline => (hnonneg line hline).2]
  omega

def closingHeader : JournalEntryHeader := ⟨1, "JE-0001", ⟨2024, 6, 30, by decide⟩, none, true⟩

def overfullLines : List JournalLine :=
  [⟨1, ⟨101, "1001", "Cash", "asset"⟩, 0x7FFFFFFFFFFFFFFF, 0x7FFFFFFFFFFFFFFF, none⟩,
   ⟨2, ⟨102, "1002", "Cash", "asset"⟩, 1, 0, none⟩]

-- Both sums are beyond the largest amount.
theorem balanced_iff_sums_agree_of_overfull :
    (∀ line ∈ overfullLines, 0 ≤ line.debit.toInt ∧ 0 ≤ line.credit.toInt) ∧
      ((JournalEntry.of closingHeader overfullLines).balanced = true ↔
        exactSum (overfullLines.map JournalLine.debit) =
            exactSum (overfullLines.map JournalLine.credit) ∨
          largest ≤ exactSum (overfullLines.map JournalLine.debit) ∧
            largest ≤ exactSum (overfullLines.map JournalLine.credit)) :=
  ⟨by decide, balanced_iff_sums_agree closingHeader overfullLines (by decide)⟩

-- An entry that is a cent out of balance passes for balanced.
theorem balanced_of_unequal_sums :
    (∀ line ∈ overfullLines, 0 ≤ line.debit.toInt ∧ 0 ≤ line.credit.toInt) ∧
      (JournalEntry.of closingHeader overfullLines).balanced = true ∧
      exactSum (overfullLines.map JournalLine.debit) =
        exactSum (overfullLines.map JournalLine.credit) + 1 :=
  ⟨by decide, by decide, by decide⟩


open Amount (Fits exactSum largest)

/-! ## Totals of line items

Where no line is negative the lines only add up, so all the clamping on the way comes to a single
clamp of the exact sum, and the order of the lines makes no difference.
-/

namespace LineItem

def exactTotal (item : LineItem) : Int := item.quantity.toInt * item.unitPrice.toInt

structure Nonneg (item : LineItem) : Prop where
  quantity : 0 ≤ item.quantity.toInt
  unitPrice : 0 ≤ item.unitPrice.toInt

instance (item : LineItem) : Decidable item.Nonneg :=
  decidable_of_iff (0 ≤ item.quantity.toInt ∧ 0 ≤ item.unitPrice.toInt)
    ⟨fun ⟨hquantity, hprice⟩ => ⟨hquantity, hprice⟩, fun ⟨hquantity, hprice⟩ => ⟨hquantity, hprice⟩⟩

/-- The total of an item that was read is the clamp of the exact one. -/
theorem IsRead.lineTotal_eq {item : LineItem} (h : item.IsRead) :
    item.lineTotal = Amount.clamp item.exactTotal := by
  have hread := item.isRead_iff.mp h
  exact (congrArg lineTotal (Option.some.inj hread)).symm

theorem IsRead.toInt_lineTotal {item : LineItem} (h : item.IsRead) (hfits : Fits item.exactTotal) :
    item.lineTotal.toInt = item.exactTotal := by
  rw [h.lineTotal_eq, Amount.toInt_clamp_of_fits hfits]

theorem Nonneg.exactTotal {item : LineItem} (h : item.Nonneg) : 0 ≤ item.exactTotal :=
  Int.mul_nonneg h.quantity h.unitPrice

/-- Where nothing is negative an item's total is exact or the largest amount. -/
theorem IsRead.toInt_lineTotal_of_nonneg {item : LineItem} (h : item.IsRead)
    (hnonneg : item.Nonneg) :
    item.lineTotal.toInt = min largest item.exactTotal := by
  have htotal := hnonneg.exactTotal
  rw [h.lineTotal_eq, Amount.toInt_clamp, Amount.smallest, Amount.largest]
  omega

end LineItem

def exactSubtotal (items : List LineItem) : Int :=
  (items.map LineItem.exactTotal).sum

theorem exactSubtotal_nonneg {items : List LineItem} (h : ∀ item ∈ items, item.Nonneg) :
    0 ≤ exactSubtotal items := by
  induction items with
  | nil => exact Int.le_refl 0
  | cons item items ih =>
    obtain ⟨hitem, hitems⟩ := List.forall_mem_cons.mp h
    exact Int.add_nonneg hitem.exactTotal (ih hitems)

namespace Totals

variable {items : List LineItem}

/-! ### Totals that only grow -/

-- It makes no difference whether each line is clamped before they are added up.
theorem min_exactSum_lineTotal (hread : ∀ item ∈ items, item.IsRead)
    (hnonneg : ∀ item ∈ items, item.Nonneg) :
    min largest (exactSum (items.map LineItem.lineTotal)) = min largest (exactSubtotal items) := by
  induction items with
  | nil => rfl
  | cons item items ih =>
    obtain ⟨hitem, hitems⟩ := List.forall_mem_cons.mp hread
    obtain ⟨hfirst, hothers⟩ := List.forall_mem_cons.mp hnonneg
    have hline := hitem.toInt_lineTotal_of_nonneg hfirst
    have hexact := hfirst.exactTotal
    have hrest := exactSubtotal_nonneg hothers
    have hclamped := ih hitems hothers
    rw [List.map_cons, Amount.exactSum_cons, exactSubtotal, List.map_cons, List.sum_cons,
      ← exactSubtotal, hline]
    simp only [Amount.largest] at *
    omega

theorem lineTotal_nonneg (hread : ∀ item ∈ items, item.IsRead)
    (hnonneg : ∀ item ∈ items, item.Nonneg) :
    ∀ amount ∈ items.map LineItem.lineTotal, 0 ≤ amount.toInt := by
  rw [List.forall_mem_map]
  intro item hitem
  have hexact := (hnonneg item hitem).exactTotal
  rw [(hread item hitem).toInt_lineTotal_of_nonneg (hnonneg item hitem), Amount.largest]
  omega

/-- Clamping item by item and once more in the sum is the same as clamping once. -/
theorem toInt_subtotal_of_nonneg (hread : ∀ item ∈ items, item.IsRead)
    (hnonneg : ∀ item ∈ items, item.Nonneg) (discount deliveryFee : Amount) :
    (Totals.of items discount deliveryFee).subtotal.toInt = min largest (exactSubtotal items) := by
  rw [← min_exactSum_lineTotal hread hnonneg]
  exact Amount.toInt_sum_of_nonneg (lineTotal_nonneg hread hnonneg)

theorem total_eq (items : List LineItem) (discount deliveryFee : Amount) :
    (Totals.of items discount deliveryFee).total =
      ((Totals.of items discount deliveryFee).subtotal.sub discount).add deliveryFee := rfl

-- A discount below zero can lift the subtotal out of the range, and the fee then leaves it there.
theorem toInt_total_of_nonneg {discount deliveryFee : Amount} (hfee : 0 ≤ deliveryFee.toInt)
    (hsubtotal : 0 ≤ (Totals.of items discount deliveryFee).subtotal.toInt) :
    (Totals.of items discount deliveryFee).total.toInt =
      min largest ((Totals.of items discount deliveryFee).subtotal.toInt - discount.toInt +
        deliveryFee.toInt) := by
  have hdiscount := discount.toInt_le_largest
  rw [total_eq, Amount.toInt_add, Amount.toInt_sub]
  simp only [Amount.smallest, Amount.largest] at *
  omega

/-- Totals do not depend on the order of the items. -/
theorem of_perm {others : List LineItem} (h : items.Perm others)
    (hread : ∀ item ∈ items, item.IsRead) (hnonneg : ∀ item ∈ items, item.Nonneg)
    (discount deliveryFee : Amount) :
    Totals.of items discount deliveryFee = Totals.of others discount deliveryFee := by
  have hsame := Amount.sum_perm_of_nonneg (h.map LineItem.lineTotal)
    (lineTotal_nonneg hread hnonneg)
  rw [Totals.of, Totals.of, hsame]

/-! ### Totals that stay within the range -/

/-- Every number that comes up on the way to the totals is an amount: the total of a line, the sum
of the lines so far, what is left after the discount, and what the document comes to. -/
structure Unclamped (items : List LineItem) (discount deliveryFee : Int) : Prop where
  lines : ∀ item ∈ items, Fits item.exactTotal
  sums : ∀ sum ∈ (items.map LineItem.exactTotal).scanl (· + ·) 0, Fits sum
  discounted : Fits (exactSubtotal items - discount)
  total : Fits (exactSubtotal items - discount + deliveryFee)

instance (items : List LineItem) (discount deliveryFee : Int) :
    Decidable (Unclamped items discount deliveryFee) :=
  decidable_of_iff
    ((∀ item ∈ items, Fits item.exactTotal) ∧
      (∀ sum ∈ (items.map LineItem.exactTotal).scanl (· + ·) 0, Fits sum) ∧
      Fits (exactSubtotal items - discount) ∧ Fits (exactSubtotal items - discount + deliveryFee))
    ⟨fun ⟨hlines, hsums, hdiscounted, htotal⟩ => ⟨hlines, hsums, hdiscounted, htotal⟩,
      fun ⟨hlines, hsums, hdiscounted, htotal⟩ => ⟨hlines, hsums, hdiscounted, htotal⟩⟩

theorem map_toInt_lineTotal (hread : ∀ item ∈ items, item.IsRead)
    (hfits : ∀ item ∈ items, Fits item.exactTotal) :
    (items.map LineItem.lineTotal).map Int64.toInt = items.map LineItem.exactTotal := by
  rw [List.map_map]
  exact List.map_congr_left fun item hitem =>
    (hread item hitem).toInt_lineTotal (hfits item hitem)

section

variable {discount deliveryFee : Amount}

/-- Where nothing is clamped the subtotal is the exact one, also for negative items. -/
theorem Unclamped.toInt_subtotal (hread : ∀ item ∈ items, item.IsRead)
    (h : Unclamped items discount.toInt deliveryFee.toInt) :
    (Totals.of items discount deliveryFee).subtotal.toInt = exactSubtotal items := by
  have hlines := map_toInt_lineTotal hread h.lines
  rw [exactSubtotal, ← hlines]
  apply Amount.toInt_sum_of_fits
  rw [hlines]
  exact h.sums

theorem Unclamped.toInt_total (hread : ∀ item ∈ items, item.IsRead)
    (h : Unclamped items discount.toInt deliveryFee.toInt) :
    (Totals.of items discount deliveryFee).total.toInt =
      exactSubtotal items - discount.toInt + deliveryFee.toInt := by
  have hsubtotal := h.toInt_subtotal hread
  have hdiscounted : ((Totals.of items discount deliveryFee).subtotal.sub discount).toInt =
      exactSubtotal items - discount.toInt := by
    rw [Amount.sub, hsubtotal, Amount.toInt_clamp_of_fits h.discounted]
  rw [total_eq, Amount.add, hdiscounted, Amount.toInt_clamp_of_fits h.total]

end

/-- Where no line and no delivery fee is negative, the subtotal is the exact sum of the lines and
the total the exact result from there, each clamped once at the top; so the order of the lines makes
no difference.  Whatever the signs, both are exact if no number on the way leaves the range. -/
theorem exact_up_to_one_clamp (items : List LineItem) (hread : ∀ item ∈ items, item.IsRead)
    (discount deliveryFee : Amount) :
    let totals := Totals.of items discount deliveryFee
    ((∀ item ∈ items, item.Nonneg) → 0 ≤ deliveryFee.toInt →
      totals.subtotal.toInt = min largest (exactSubtotal items) ∧
      totals.total.toInt =
        min largest (totals.subtotal.toInt - discount.toInt + deliveryFee.toInt) ∧
      ∀ others : List LineItem, items.Perm others →
        Totals.of others discount deliveryFee = totals) ∧
    (Unclamped items discount.toInt deliveryFee.toInt →
      totals.subtotal.toInt = exactSubtotal items ∧
      totals.total.toInt = exactSubtotal items - discount.toInt + deliveryFee.toInt) := by
  intro totals
  constructor
  · intro hnonneg hfee
    have hsubtotal := toInt_subtotal_of_nonneg hread hnonneg discount deliveryFee
    have hexact := exactSubtotal_nonneg hnonneg
    refine ⟨hsubtotal, toInt_total_of_nonneg hfee ?_,
      fun others hperm => (of_perm hperm hread hnonneg discount deliveryFee).symm⟩
    rw [hsubtotal, Amount.largest]
    omega
  · exact fun h => ⟨h.toInt_subtotal hread, h.toInt_total hread⟩

/-- Two boats cost more than the largest amount.  A boat taken back and a discount that is no
discount are still exact. -/
theorem exact_up_to_one_clamp_of_boats :
    let boat : LineItem := ⟨1, "Boat", 2, 0x5000000000000000, 0x7FFFFFFFFFFFFFFF⟩
    let oar : LineItem := ⟨2, "Oar", 3, 250, 750⟩
    let returned : LineItem := ⟨3, "Boat", -1, 0x5000000000000000, -0x5000000000000000⟩
    (∀ item ∈ [boat, oar], item.IsRead) ∧ (∀ item ∈ [boat, oar], item.Nonneg) ∧
      (Totals.of [boat, oar] 1000 300).subtotal.toInt = 0x7FFFFFFFFFFFFFFF ∧
      (Totals.of [boat, oar] 1000 300).total.toInt = 0x7FFFFFFFFFFFFFFF - 700 ∧
      Totals.of [oar, boat] 1000 300 = Totals.of [boat, oar] 1000 300 ∧
      (∀ item ∈ [returned, oar], item.IsRead) ∧ Unclamped [returned, oar] (-5) (-10) ∧
      (Totals.of [returned, oar] (-5) (-10)).total.toInt = -0x5000000000000000 + 745 := by
  intro boat oar returned
  have hread : ∀ item ∈ [boat, oar], item.IsRead := by decide
  have hnonneg : ∀ item ∈ [boat, oar], item.Nonneg := by decide
  have hreturned : ∀ item ∈ [returned, oar], item.IsRead := by decide
  have hunclamped : Unclamped [returned, oar] (-5) (-10) := by decide
  obtain ⟨hsubtotal, htotal, hperm⟩ :=
    (exact_up_to_one_clamp [boat, oar] hread 1000 300).1 hnonneg (by decide)
  obtain ⟨-, hexact⟩ := (exact_up_to_one_clamp [returned, oar] hreturned (-5) (-10)).2 hunclamped
  have hsum : min largest (exactSubtotal [boat, oar]) = 0x7FFFFFFFFFFFFFFF := by decide
  rw [hsubtotal, hsum] at htotal
  exact ⟨hread, hnonneg, hsubtotal.trans hsum, htotal.trans (by decide),
    hperm [oar, boat] (List.Perm.swap ..), hreturned, hunclamped, hexact.trans (by decide)⟩

end Totals

end Daybook.Document
