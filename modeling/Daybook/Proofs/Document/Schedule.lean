import Daybook.Proofs.Amount
import Daybook.Proofs.Document.TermOrder

/-!
# Schedules in exact integers

What the lines of a payment term take if nothing is clamped.  As long as every number on the way is
an amount, the schedule holds just these numbers, and a balance line brings the sum of what was
taken to the total.
-/

namespace Daybook.Document

open Amount (Fits exactSum)

namespace TermLine

/-! ## What lines take -/

-- What a line takes in exact integers, where `allocated` is taken already.
def exactAmount (line : TermLine) (total allocated : Int) : Int :=
  match line.valueType with
  | .percent => Int.tdiv (total * line.value.toInt) 10000
  | .fixed => line.value.toInt
  | .balance => total - allocated

/-- What lines take one after the other in exact integers. -/
def exactAmounts (total allocated : Int) : List TermLine → List Int
  | [] => []
  | line :: lines =>
    let amount := line.exactAmount total allocated
    amount :: exactAmounts total (allocated + amount) lines

/-- Every number that comes up while lines take their parts is an amount: the share of a percent
line and what a balance line finds left, and the sum of what is taken before and after each. -/
structure Unclamped (total allocated : Int) (lines : List TermLine) : Prop where
  amounts : ∀ amount ∈ exactAmounts total allocated lines, Fits amount
  sums : ∀ sum ∈ (exactAmounts total allocated lines).scanl (· + ·) allocated, Fits sum

instance (total allocated : Int) (lines : List TermLine) :
    Decidable (Unclamped total allocated lines) :=
  decidable_of_iff
    ((∀ amount ∈ exactAmounts total allocated lines, Fits amount) ∧
      ∀ sum ∈ (exactAmounts total allocated lines).scanl (· + ·) allocated, Fits sum)
    ⟨fun ⟨hamounts, hsums⟩ => ⟨hamounts, hsums⟩, fun ⟨hamounts, hsums⟩ => ⟨hamounts, hsums⟩⟩

@[simp] theorem length_exactAmounts (total allocated : Int) (lines : List TermLine) :
    (exactAmounts total allocated lines).length = lines.length := by
  induction lines generalizing allocated with
  | nil => rfl
  | cons line lines ih => rw [exactAmounts, List.length_cons, ih, List.length_cons]

/-- Later lines see of the earlier ones only how much they took in all. -/
theorem exactAmounts_append (total allocated : Int) (lines others : List TermLine) :
    exactAmounts total allocated (lines ++ others) =
      exactAmounts total allocated lines ++
        exactAmounts total (allocated + (exactAmounts total allocated lines).sum) others := by
  induction lines generalizing allocated with
  | nil => rw [exactAmounts, List.sum_nil, Int.add_zero, List.nil_append, List.nil_append]
  | cons line lines ih =>
    rw [List.cons_append, exactAmounts, exactAmounts, ih, List.sum_cons, List.cons_append,
      Int.add_assoc]

theorem unclamped_nil_iff {total allocated : Int} :
    Unclamped total allocated [] ↔ Fits allocated := by
  constructor
  · intro h
    exact h.sums allocated List.mem_cons_self
  · intro h
    refine ⟨fun amount hamount => absurd hamount List.not_mem_nil, fun sum hsum => ?_⟩
    rwa [List.mem_singleton.mp hsum]

/-- Nothing is clamped if the first line clamps nothing, and the others do not after it. -/
theorem unclamped_cons_iff {total allocated : Int} {line : TermLine} {lines : List TermLine} :
    Unclamped total allocated (line :: lines) ↔
      Fits allocated ∧ Fits (line.exactAmount total allocated) ∧
        Unclamped total (allocated + line.exactAmount total allocated) lines := by
  constructor
  · rintro ⟨hamounts, hsums⟩
    rw [exactAmounts, List.forall_mem_cons] at hamounts
    rw [exactAmounts, List.scanl_cons, List.forall_mem_cons] at hsums
    exact ⟨hsums.1, hamounts.1, hamounts.2, hsums.2⟩
  · rintro ⟨hallocated, hamount, hamounts, hsums⟩
    refine ⟨List.forall_mem_cons.mpr ⟨hamount, hamounts⟩, ?_⟩
    rw [exactAmounts, List.scanl_cons, List.forall_mem_cons]
    exact ⟨hallocated, hsums⟩

theorem Unclamped.fits {total allocated : Int} {lines : List TermLine}
    (h : Unclamped total allocated lines) : Fits allocated := by
  cases lines with
  | nil => exact unclamped_nil_iff.mp h
  | cons line lines => exact (unclamped_cons_iff.mp h).1

/-- Lines clamp nothing if their first part does not, and their second does not after it. -/
theorem unclamped_append_iff {total allocated : Int} {lines others : List TermLine} :
    Unclamped total allocated (lines ++ others) ↔
      Unclamped total allocated lines ∧
        Unclamped total (allocated + (exactAmounts total allocated lines).sum) others := by
  induction lines generalizing allocated with
  | nil =>
    rw [List.nil_append, exactAmounts, List.sum_nil, Int.add_zero, unclamped_nil_iff]
    exact ⟨fun h => ⟨h.fits, h⟩, And.right⟩
  | cons line lines ih =>
    rw [List.cons_append, unclamped_cons_iff, unclamped_cons_iff, ih, exactAmounts, List.sum_cons,
      Int.add_assoc, and_assoc, and_assoc]

/-! ## Schedules without clamping -/

theorem toInt_amount {line : TermLine} {total allocated : Amount}
    (h : Fits (line.exactAmount total.toInt allocated.toInt)) :
    (line.amount total allocated).toInt = line.exactAmount total.toInt allocated.toInt := by
  rw [amount, exactAmount] at *
  cases hkind : line.valueType with
  | percent =>
    rw [hkind] at h
    exact Amount.toInt_clamp_of_fits h
  | fixed => rfl
  | balance =>
    rw [hkind] at h
    exact Amount.toInt_clamp_of_fits h

-- Induction on the lines, each of which leaves the exact sum to the next one.
theorem toInt_installmentsFrom (orderDate : Date) {total allocated : Amount}
    {lines : List TermLine} (h : Unclamped total.toInt allocated.toInt lines) :
    (installmentsFrom orderDate total allocated lines).map (fun part => part.amount.toInt) =
      exactAmounts total.toInt allocated.toInt lines := by
  induction lines generalizing allocated with
  | nil => rfl
  | cons line lines ih =>
    obtain ⟨-, hamount, hrest⟩ := unclamped_cons_iff.mp h
    have hexact := toInt_amount hamount
    have hadd : (allocated.add (line.amount total allocated)).toInt =
        allocated.toInt + line.exactAmount total.toInt allocated.toInt := by
      rw [← hexact] at hrest ⊢
      exact Amount.toInt_clamp_of_fits hrest.fits
    rw [installmentsFrom, exactAmounts, List.map_cons, ih (hadd ▸ hrest), hadd, hexact]

/-- The schedule of later lines starts from what the earlier ones took. -/
theorem installmentsFrom_append (orderDate : Date) (total allocated : Amount)
    (lines others : List TermLine) :
    installmentsFrom orderDate total allocated (lines ++ others) =
      installmentsFrom orderDate total allocated lines ++
        installmentsFrom orderDate total
          (((installmentsFrom orderDate total allocated lines).map Installment.amount).foldl
            Amount.add allocated) others := by
  induction lines generalizing allocated with
  | nil => rfl
  | cons line lines ih =>
    rw [List.cons_append, installmentsFrom, installmentsFrom, ih]
    rfl

/-! ## Balance lines -/

-- A balance line takes whatever is left, also if it is negative.
theorem exactAmount_of_balance {line : TermLine} (h : line.valueType = .balance)
    (total allocated : Int) : line.exactAmount total allocated = total - allocated := by
  rw [exactAmount, h]

-- After a balance line the whole total is taken, whatever the lines before it took.
theorem sum_exactAmounts_through_balance {total allocated : Int} {lines : List TermLine} {k : Nat}
    {line : TermLine} (hline : lines[k]? = some line) (hbalance : line.valueType = .balance) :
    allocated + ((exactAmounts total allocated lines).take (k + 1)).sum = total := by
  induction lines generalizing allocated k with
  | nil => cases hline
  | cons first lines ih =>
    rw [exactAmounts, List.take_succ_cons, List.sum_cons]
    cases k with
    | zero =>
      obtain rfl : first = line := Option.some.inj hline
      rw [exactAmount_of_balance hbalance, List.take_zero, List.sum_nil]
      omega
    | succ k => rw [← Int.add_assoc, ih hline]

end TermLine

/-! ## Whole schedules -/

theorem exactSum_map_amount (schedule : List Installment) :
    exactSum (schedule.map Installment.amount) =
      (schedule.map fun part => part.amount.toInt).sum := by
  rw [exactSum, List.map_map]
  rfl

theorem toInt_installments (orderDate : Date) {total : Amount} {lines : List TermLine}
    (h : TermLine.Unclamped total.toInt 0 (TermLine.inOrder lines)) :
    (installments orderDate total lines).map (fun part => part.amount.toInt) =
      TermLine.exactAmounts total.toInt 0 (TermLine.inOrder lines) :=
  TermLine.toInt_installmentsFrom orderDate h

theorem exactSum_installments (orderDate : Date) {total : Amount} {lines : List TermLine}
    (h : TermLine.Unclamped total.toInt 0 (TermLine.inOrder lines)) :
    exactSum ((installments orderDate total lines).map Installment.amount) =
      (TermLine.exactAmounts total.toInt 0 (TermLine.inOrder lines)).sum := by
  rw [exactSum_map_amount, toInt_installments orderDate h]

-- A line that comes after all others has its part after theirs.
theorem exists_installments_concat (orderDate : Date) (total : Amount) {lines : List TermLine}
    {rest : TermLine} (hlast : ∀ line ∈ lines, line.comesBefore rest = true) :
    ∃ amount : Amount, installments orderDate total (lines ++ [rest]) =
      installments orderDate total lines ++
        [⟨rest.sequence, TermLine.dueDate orderDate rest.days, amount⟩] := by
  refine ⟨rest.amount total
    (Amount.sum ((installments orderDate total lines).map Installment.amount)), ?_⟩
  rw [installments, TermLine.inOrder_concat hlast, TermLine.installmentsFrom_append]
  rfl

/-- Where no number leaves the range of amounts, what is due up to and including a balance line is
the total.  So if the last line is a balance line, the schedule splits the total without a rest. -/
theorem sum_through_balance (orderDate : Date) (total : Amount) (lines : List TermLine)
    (hunclamped : TermLine.Unclamped total.toInt 0 (TermLine.inOrder lines)) :
    (∀ (k : Nat) (line : TermLine),
      (TermLine.inOrder lines)[k]? = some line → line.valueType = .balance →
        exactSum (((installments orderDate total lines).take (k + 1)).map Installment.amount) =
          total.toInt) ∧
    ∀ line : TermLine,
      (TermLine.inOrder lines).getLast? = some line → line.valueType = .balance →
        exactSum ((installments orderDate total lines).map Installment.amount) = total.toInt := by
  have hthrough : ∀ (k : Nat) (line : TermLine),
      (TermLine.inOrder lines)[k]? = some line → line.valueType = .balance →
        ((TermLine.exactAmounts total.toInt 0 (TermLine.inOrder lines)).take (k + 1)).sum =
          total.toInt := by
    intro k line hline hbalance
    rw [← Int.zero_add (List.sum _)]
    exact TermLine.sum_exactAmounts_through_balance hline hbalance
  constructor
  · intro k line hline hbalance
    rw [exactSum_map_amount, List.map_take, toInt_installments orderDate hunclamped]
    exact hthrough k line hline hbalance
  · intro line hlast hbalance
    obtain ⟨front, hfront⟩ := List.getLast?_eq_some_iff.mp hlast
    have hline : (TermLine.inOrder lines)[front.length]? = some line := by
      rw [hfront, List.getElem?_concat_length]
    have hwhole := hthrough front.length line hline hbalance
    rw [List.take_of_length_le (by rw [TermLine.length_exactAmounts, hfront]; simp)] at hwhole
    rw [exactSum_installments orderDate hunclamped, hwhole]

def mixedLines : List TermLine :=
  [⟨3, 3, .balance, 0, 60⟩, ⟨5, 4, .balance, 0, 90⟩, ⟨1, 1, .percent, 3333, 0⟩,
   ⟨2, 2, .fixed, 250, 30⟩, ⟨4, 4, .fixed, -40, 90⟩]

theorem inOrder_mixedLines :
    TermLine.inOrder mixedLines =
      [⟨1, 1, .percent, 3333, 0⟩, ⟨2, 2, .fixed, 250, 30⟩, ⟨3, 3, .balance, 0, 60⟩,
       ⟨4, 4, .fixed, -40, 90⟩, ⟨5, 4, .balance, 0, 90⟩] := by
  rw [TermLine.inOrder_eq_insertionSort]
  decide

-- The second of two balance lines undoes the fixed line between them.
theorem sum_through_balance_of_mixed_lines :
    let orderDate : Date := ⟨2024, 1, 1, by decide⟩
    TermLine.Unclamped (-1001) 0 (TermLine.inOrder mixedLines) ∧
      (TermLine.inOrder mixedLines)[2]? = some ⟨3, 3, .balance, 0, 60⟩ ∧
      exactSum (((installments orderDate (-1001) mixedLines).take 3).map Installment.amount) =
        -1001 ∧
      (TermLine.inOrder mixedLines).getLast? = some ⟨5, 4, .balance, 0, 90⟩ ∧
      exactSum ((installments orderDate (-1001) mixedLines).map Installment.amount) = -1001 := by
  intro orderDate
  have hunclamped : TermLine.Unclamped (-1001) 0 (TermLine.inOrder mixedLines) := by
    rw [inOrder_mixedLines]
    decide
  have hthird : (TermLine.inOrder mixedLines)[2]? = some ⟨3, 3, .balance, 0, 60⟩ := by
    rw [inOrder_mixedLines]
    rfl
  have hlast : (TermLine.inOrder mixedLines).getLast? = some ⟨5, 4, .balance, 0, 90⟩ := by
    rw [inOrder_mixedLines]
    rfl
  obtain ⟨hthrough, hwhole⟩ := sum_through_balance orderDate (-1001) mixedLines hunclamped
  exact ⟨hunclamped, hthird, hthrough 2 _ hthird rfl, hlast, hwhole _ hlast rfl⟩

end Daybook.Document
