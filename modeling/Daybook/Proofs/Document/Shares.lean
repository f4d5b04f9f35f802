import Daybook.Proofs.Document.Schedule

/-!
# Shares of a total

Percent lines that ask for no more than the whole.  Each share is rounded toward zero, so together
they never take more than the total and fall short of it by less than a cent for each line; and all
this lies between zero and the total, so nothing is clamped.
-/

namespace Daybook.Document

open Amount (Fits exactSum)

/-! ## Parts of a total -/

/-- The number lies between zero and the total, on the side of zero where the total is. -/
def Within (total n : Int) : Prop := min 0 total ≤ n ∧ n ≤ max 0 total

namespace Within

/-- What lies between zero and an amount is an amount. -/
theorem fits {total : Amount} {n : Int} (h : Within total.toInt n) : Fits n := by
  obtain ⟨hlow, hhigh⟩ := h
  obtain ⟨hsmallest, hlargest⟩ := total.fits_toInt
  constructor
  · simp only [Amount.smallest] at *
    omega
  · simp only [Amount.largest] at *
    omega

/-- What is left of a total after a part of it is a part of it, too. -/
theorem rest {total n : Int} (h : Within total n) : Within total (total - n) := by
  obtain ⟨hlow, hhigh⟩ := h
  constructor <;> omega

theorem eq_zero_or_sign_eq {total n : Int} (h : Within total n) : n = 0 ∨ n.sign = total.sign := by
  obtain ⟨hlow, hhigh⟩ := h
  rcases Int.lt_trichotomy n 0 with hneg | hzero | hpos
  · have htotal : total < 0 := by omega
    exact .inr (by rw [Int.sign_eq_neg_one_of_neg hneg, Int.sign_eq_neg_one_of_neg htotal])
  · exact .inl hzero
  · have htotal : 0 < total := by omega
    exact .inr (by rw [Int.sign_eq_one_of_pos hpos, Int.sign_eq_one_of_pos htotal])

end Within

/-! ## Rounded shares -/

/-- What `count` shares of `basisPoints` in all take of a total.  Each is rounded toward zero, so
they take no more than the exact part and less than a cent per share less. -/
structure Shared (total basisPoints taken : Int) (count : Nat) : Prop where
  of_nonneg : 0 ≤ total → 0 ≤ taken ∧ 10000 * taken ≤ total * basisPoints ∧
    total * basisPoints ≤ 10000 * taken + 9999 * count
  of_nonpos : total ≤ 0 → taken ≤ 0 ∧ total * basisPoints ≤ 10000 * taken ∧
    10000 * taken ≤ total * basisPoints + 9999 * count

namespace Shared

theorem zero (total : Int) : Shared total 0 0 0 := by
  constructor <;> intro _ <;> omega

/-- One share is rounded by less than a cent. -/
theorem single {total basisPoints : Int} (h : 0 ≤ basisPoints) :
    Shared total basisPoints (Int.tdiv (total * basisPoints) 10000) 1 := by
  constructor
  · intro htotal
    have hpart := Int.mul_nonneg htotal h
    rw [Int.tdiv_eq_ediv_of_nonneg hpart]
    omega
  · intro htotal
    have hpart := Int.mul_nonpos_of_nonpos_of_nonneg htotal h
    have hneg : Int.tdiv (total * basisPoints) 10000 = -(-(total * basisPoints) / 10000) := by
      rw [← Int.tdiv_eq_ediv_of_nonneg (by omega), Int.neg_tdiv, Int.neg_neg]
    rw [hneg]
    omega

/-- Two lots of shares together are rounded by less than a cent for each share. -/
theorem add {total basisPoints others taken more : Int} {count rest : Nat}
    (h : Shared total basisPoints taken count) (hrest : Shared total others more rest) :
    Shared total (basisPoints + others) (taken + more) (count + rest) := by
  have hparts := Int.mul_add total basisPoints others
  constructor
  · intro htotal
    have hfirst := h.of_nonneg htotal
    have hsecond := hrest.of_nonneg htotal
    omega
  · intro htotal
    have hfirst := h.of_nonpos htotal
    have hsecond := hrest.of_nonpos htotal
    omega

variable {total basisPoints taken : Int} {count : Nat}

/-- Shares of no more than the whole take a part of the total. -/
theorem within (h : Shared total basisPoints taken count) (hwhole : basisPoints ≤ 10000) :
    Within total taken := by
  rcases Int.le_total 0 total with htotal | htotal
  · have hpart := h.of_nonneg htotal
    have hexact := Int.mul_le_mul_of_nonneg_left hwhole htotal
    constructor <;> omega
  · have hpart := h.of_nonpos htotal
    have hexact := Int.mul_le_mul_of_nonpos_left htotal hwhole
    constructor <;> omega

-- Of the whole, less than a cent is lost with each share.
theorem natAbs_lt (h : Shared total 10000 taken count) (hcount : 0 < count) :
    total.natAbs < taken.natAbs + count := by
  rcases Int.le_total 0 total with htotal | htotal
  · have hpart := h.of_nonneg htotal
    omega
  · have hpart := h.of_nonpos htotal
    omega

end Shared

/-! ## Percent lines -/

namespace TermLine

/-- The line takes a share of the total that is not negative. -/
structure IsShare (line : TermLine) : Prop where
  percent : line.valueType = .percent
  nonneg : 0 ≤ line.value.toInt

instance (line : TermLine) : Decidable line.IsShare :=
  decidable_of_iff (line.valueType = .percent ∧ 0 ≤ line.value.toInt)
    ⟨fun ⟨hpercent, hnonneg⟩ => ⟨hpercent, hnonneg⟩, fun ⟨hpercent, hnonneg⟩ => ⟨hpercent, hnonneg⟩⟩

theorem IsShare.shared {line : TermLine} (h : line.IsShare) (total allocated : Int) :
    Shared total line.value.toInt (line.exactAmount total allocated) 1 := by
  rw [exactAmount, h.percent]
  exact Shared.single h.nonneg

variable {lines : List TermLine}

theorem value_nonneg (h : ∀ line ∈ lines, line.IsShare) : 0 ≤ exactSum (lines.map value) :=
  Amount.exactSum_nonneg (List.forall_mem_map.mpr fun line hline => (h line hline).nonneg)

/-- The lines take what their shares allow, one after the other. -/
theorem shared_exactAmounts (h : ∀ line ∈ lines, line.IsShare) (total allocated : Int) :
    Shared total (exactSum (lines.map value)) (exactAmounts total allocated lines).sum
      lines.length := by
  induction lines generalizing allocated with
  | nil => exact Shared.zero total
  | cons line lines ih =>
    obtain ⟨hline, hlines⟩ := List.forall_mem_cons.mp h
    have hadd := (hline.shared total allocated).add
      (ih hlines (allocated + line.exactAmount total allocated))
    rw [Nat.add_comm] at hadd
    rw [List.map_cons, Amount.exactSum_cons, exactAmounts, List.sum_cons, List.length_cons]
    exact hadd

-- No single line asks for more than all of them do.
theorem within_of_mem_exactAmounts (h : ∀ line ∈ lines, line.IsShare)
    (hwhole : exactSum (lines.map value) ≤ 10000) {total allocated amount : Int}
    (hamount : amount ∈ exactAmounts total allocated lines) : Within total amount := by
  induction lines generalizing allocated with
  | nil => cases hamount
  | cons line lines ih =>
    obtain ⟨hline, hlines⟩ := List.forall_mem_cons.mp h
    have hothers := value_nonneg hlines
    have hvalue := hline.nonneg
    rw [List.map_cons, Amount.exactSum_cons] at hwhole
    rcases List.mem_cons.mp hamount with rfl | hamount
    · exact (hline.shared total allocated).within (by omega)
    · exact ih hlines (by omega) hamount

-- Induction on the lines; what was taken before them are shares of `basisPoints` in all.
theorem unclamped_of_shared (h : ∀ line ∈ lines, line.IsShare) {total : Amount}
    {basisPoints allocated : Int} {count : Nat}
    (hshared : Shared total.toInt basisPoints allocated count) (hnonneg : 0 ≤ basisPoints)
    (hwhole : basisPoints + exactSum (lines.map value) ≤ 10000) :
    Unclamped total.toInt allocated lines := by
  induction lines generalizing basisPoints allocated count with
  | nil => exact unclamped_nil_iff.mpr (hshared.within (by simpa using hwhole)).fits
  | cons line lines ih =>
    obtain ⟨hline, hlines⟩ := List.forall_mem_cons.mp h
    have hothers := value_nonneg hlines
    have hvalue := hline.nonneg
    have hshare := hline.shared total.toInt allocated
    rw [List.map_cons, Amount.exactSum_cons] at hwhole
    refine unclamped_cons_iff.mpr ⟨?_, ?_, ?_⟩
    · exact (hshared.within (by omega)).fits
    · exact (hshare.within (by omega)).fits
    · exact ih hlines (hshared.add hshare) (by omega) (by omega)

end TermLine

/-! ## Schedules of shares -/

-- The product that a share is divided from takes less than 128 bits.
theorem natAbs_product_lt (a b : Amount) : (a.toInt * b.toInt).natAbs < 2 ^ 127 := by
  have hbits : ∀ c : Amount, c.toInt.natAbs ≤ 2 ^ 63 := by
    intro c
    obtain ⟨hlow, hhigh⟩ := c.fits_toInt
    simp only [Amount.smallest, Amount.largest] at hlow hhigh
    omega
  rw [Int.natAbs_mul]
  calc a.toInt.natAbs * b.toInt.natAbs ≤ 2 ^ 63 * 2 ^ 63 := Nat.mul_le_mul (hbits a) (hbits b)
    _ < 2 ^ 127 := by decide

-- A balance line that comes last is due what the other lines left.
theorem exists_installments_concat_balance (orderDate : Date) {total : Amount}
    {lines : List TermLine} {rest : TermLine} (hbalance : rest.valueType = .balance)
    (hlast : ∀ line ∈ lines, line.comesBefore rest = true)
    (hunclamped : TermLine.Unclamped total.toInt 0 (TermLine.inOrder (lines ++ [rest]))) :
    ∃ amount : Amount,
      installments orderDate total (lines ++ [rest]) = installments orderDate total lines ++
        [⟨rest.sequence, TermLine.dueDate orderDate rest.days, amount⟩] ∧
      amount.toInt =
        total.toInt - exactSum ((installments orderDate total lines).map Installment.amount) := by
  obtain ⟨amount, hconcat⟩ := exists_installments_concat orderDate total hlast
  refine ⟨amount, hconcat, ?_⟩
  have hwhole := toInt_installments orderDate hunclamped
  rw [TermLine.inOrder_concat hlast, TermLine.unclamped_append_iff] at hunclamped
  have hexact := toInt_installments orderDate hunclamped.1
  rw [hconcat, TermLine.inOrder_concat hlast, TermLine.exactAmounts_append, List.map_append,
    hexact] at hwhole
  have hamount : amount.toInt = rest.exactAmount total.toInt
      (0 + (TermLine.exactAmounts total.toInt 0 (TermLine.inOrder lines)).sum) :=
    (List.cons.inj (List.append_cancel_left hwhole)).1
  rw [exactSum_map_amount, hexact, hamount, TermLine.exactAmount_of_balance hbalance, Int.zero_add]

-- A balance line never clamps if what was taken before it lies within the total.
theorem unclamped_concat_balance {total : Amount} {lines : List TermLine} {rest : TermLine}
    (hbalance : rest.valueType = .balance) (h : TermLine.Unclamped total.toInt 0 lines)
    (hwithin : Within total.toInt (TermLine.exactAmounts total.toInt 0 lines).sum) :
    TermLine.Unclamped total.toInt 0 (lines ++ [rest]) := by
  rw [TermLine.unclamped_append_iff, TermLine.unclamped_cons_iff, TermLine.unclamped_nil_iff,
    TermLine.exactAmount_of_balance hbalance, Int.zero_add]
  refine ⟨h, hwithin.fits, hwithin.rest.fits, ?_⟩
  rw [Int.add_comm, Int.sub_add_cancel]
  exact total.fits_toInt

theorem exactSum_value_inOrder (lines : List TermLine) :
    exactSum ((TermLine.inOrder lines).map TermLine.value) =
      exactSum (lines.map TermLine.value) :=
  Amount.exactSum_perm ((TermLine.inOrder_perm lines).map TermLine.value)

section

variable {lines : List TermLine} (hshares : ∀ line ∈ lines, line.IsShare)
include hshares

theorem isShare_of_mem_inOrder : ∀ line ∈ TermLine.inOrder lines, line.IsShare :=
  fun line hline => hshares line (TermLine.mem_inOrder.mp hline)

/-- Shares that ask for no more than the whole clamp nothing. -/
theorem unclamped_of_shares (total : Amount)
    (hwhole : exactSum (lines.map TermLine.value) ≤ 10000) :
    TermLine.Unclamped total.toInt 0 (TermLine.inOrder lines) := by
  apply TermLine.unclamped_of_shared (isShare_of_mem_inOrder hshares) (Shared.zero total.toInt)
    (Int.le_refl 0)
  rw [exactSum_value_inOrder, Int.zero_add]
  exact hwhole

theorem shared_installments (orderDate : Date) (total : Amount)
    (hwhole : exactSum (lines.map TermLine.value) ≤ 10000) :
    Shared total.toInt (exactSum (lines.map TermLine.value))
      (exactSum ((installments orderDate total lines).map Installment.amount)) lines.length := by
  rw [exactSum_installments orderDate (unclamped_of_shares hshares total hwhole),
    ← exactSum_value_inOrder, ← (TermLine.inOrder_perm lines).length_eq]
  exact TermLine.shared_exactAmounts (isShare_of_mem_inOrder hshares) total.toInt 0

/-- Each part of the schedule is a part of the total, on the same side of zero. -/
theorem within_of_mem_installments {orderDate : Date} {total : Amount}
    (hwhole : exactSum (lines.map TermLine.value) ≤ 10000) {part : Installment}
    (hpart : part ∈ installments orderDate total lines) :
    Within total.toInt part.amount.toInt := by
  have hmem : part.amount.toInt ∈
      TermLine.exactAmounts total.toInt 0 (TermLine.inOrder lines) := by
    rw [← toInt_installments orderDate (unclamped_of_shares hshares total hwhole)]
    exact List.mem_map_of_mem hpart
  rw [← exactSum_value_inOrder] at hwhole
  exact TermLine.within_of_mem_exactAmounts (isShare_of_mem_inOrder hshares) hwhole hmem

end

/-- Percent lines that ask for no more than the whole take amounts between zero and the total, and
together no more than the total.  If they ask for the whole, less than a cent for each line is left
over; a balance line after them takes exactly what they left.  All products have less than 128 bits,
and all other numbers on the way are amounts, so the schedule is exact. -/
theorem shares_within_total (orderDate : Date) (total : Amount) (lines : List TermLine)
    (hshares : ∀ line ∈ lines, line.IsShare)
    (hwhole : exactSum (lines.map TermLine.value) ≤ 10000) :
    let schedule := installments orderDate total lines
    let taken := exactSum (schedule.map Installment.amount)
    (∀ part ∈ schedule, Within total.toInt part.amount.toInt) ∧
    Within total.toInt taken ∧
    (exactSum (lines.map TermLine.value) = 10000 →
      (total.toInt.natAbs : Int) - taken.natAbs < lines.length) ∧
    (∀ line ∈ lines, (total.toInt * line.value.toInt).natAbs < 2 ^ 127) ∧
    TermLine.Unclamped total.toInt 0 (TermLine.inOrder lines) ∧
    (schedule.map fun part => part.amount.toInt) =
      TermLine.exactAmounts total.toInt 0 (TermLine.inOrder lines) ∧
    ∀ rest : TermLine, rest.valueType = .balance → (∀ line ∈ lines, line.comesBefore rest = true) →
      ∃ amount : Amount,
        installments orderDate total (lines ++ [rest]) =
          schedule ++ [⟨rest.sequence, TermLine.dueDate orderDate rest.days, amount⟩] ∧
        amount.toInt = total.toInt - taken ∧
        (amount.toInt = 0 ∨ amount.toInt.sign = total.toInt.sign) ∧
        TermLine.Unclamped total.toInt 0 (TermLine.inOrder (lines ++ [rest])) := by
  intro schedule taken
  have hunclamped := unclamped_of_shares hshares total hwhole
  have hshared : Shared total.toInt _ taken _ := shared_installments hshares orderDate total hwhole
  have hwithin : Within total.toInt taken := hshared.within hwhole
  refine ⟨fun part hpart => within_of_mem_installments hshares hwhole hpart, hwithin, ?_,
    fun line _ => natAbs_product_lt total line.value, hunclamped,
    toInt_installments orderDate hunclamped, ?_⟩
  · intro hfull
    -- Without lines nothing would be asked for, and so not the whole.
    have hlength : 0 < lines.length := by
      cases lines with
      | nil => exact absurd hfull (by decide)
      | cons line lines => exact Nat.zero_lt_succ _
    rw [hfull] at hshared
    have hlost := hshared.natAbs_lt hlength
    omega
  · intro rest hbalance hlast
    have hrest : TermLine.Unclamped total.toInt 0 (TermLine.inOrder (lines ++ [rest])) := by
      rw [TermLine.inOrder_concat hlast]
      exact unclamped_concat_balance hbalance hunclamped
        (exactSum_installments orderDate hunclamped ▸ hwithin)
    obtain ⟨amount, hschedule, hamount⟩ :=
      exists_installments_concat_balance orderDate hbalance hlast hrest
    refine ⟨amount, hschedule, hamount, ?_, hrest⟩
    rw [hamount]
    exact hwithin.rest.eq_zero_or_sign_eq

/-- Thirds in basis points.  The last is a little more, so that they add up to the whole. -/
def thirds : List TermLine :=
  [⟨1, 1, .percent, 3333, 0⟩, ⟨2, 2, .percent, 3333, 30⟩, ⟨3, 3, .percent, 3334, 60⟩]

-- Thirds of the smallest amount, which is one further from zero than the largest.
theorem shares_within_total_of_thirds :
    let orderDate : Date := ⟨2024, 1, 1, by decide⟩
    let total : Amount := -0x8000000000000000
    let rest : TermLine := ⟨4, 3, .balance, 0, 90⟩
    let taken := exactSum ((installments orderDate total thirds).map Installment.amount)
    (∀ line ∈ thirds, line.IsShare) ∧
      exactSum (thirds.map TermLine.value) = 10000 ∧
      Within total.toInt taken ∧
      (total.toInt.natAbs : Int) - taken.natAbs < 3 ∧
      (∀ line ∈ thirds, line.comesBefore rest = true) ∧
      ∃ amount : Amount,
        installments orderDate total (thirds ++ [rest]) =
          installments orderDate total thirds ++ [⟨3, ⟨2024, 3, 31, by decide⟩, amount⟩] ∧
        amount.toInt = total.toInt - taken := by
  intro orderDate total rest taken
  have hshares : ∀ line ∈ thirds, line.IsShare := by decide
  have hfull : exactSum (thirds.map TermLine.value) = 10000 := by decide
  have hlast : ∀ line ∈ thirds, line.comesBefore rest = true := by decide
  obtain ⟨-, hwithin, hlost, -, -, -, hrest⟩ :=
    shares_within_total orderDate total thirds hshares (Int.le_of_eq hfull)
  obtain ⟨amount, hschedule, hamount, -⟩ := hrest rest rfl hlast
  have hdue : TermLine.dueDate orderDate rest.days = ⟨2024, 3, 31, by decide⟩ := by decide
  exact ⟨hshares, hfull, hwithin, hlost hfull, hlast, amount, hdue ▸ hschedule, hamount⟩

end Daybook.Document
