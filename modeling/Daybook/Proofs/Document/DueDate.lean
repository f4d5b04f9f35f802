import Daybook.Proofs.Calendar
import Daybook.Proofs.Document.TermOrder

/-!
# Due dates

When the parts of a schedule are due.  A day beyond the calendar is no day, and what would be due
then is due on the day of the order, so due dates follow the days of the lines only as far as the
calendar goes.
-/

namespace Daybook.Document

/-- The calendar has a day that lies `days` after the order. -/
def Reaches (orderDate : Date) (days : Int) : Prop :=
  orderDate.dayNumber + days ≤ Date.lastDayNumber

instance (orderDate : Date) (days : Int) : Decidable (Reaches orderDate days) :=
  inferInstanceAs (Decidable (_ ≤ _))

namespace TermLine

/-! ## One due date -/

variable {orderDate : Date} {days : Int32}

theorem dueDate_of_nonneg (hdays : 0 ≤ days.toInt) :
    dueDate orderDate days = (orderDate.addDays? days.toInt.toNat).getD orderDate := by
  have hneg : ¬days < 0 := by
    rw [Int32.lt_iff_toInt_lt]
    exact Int.not_lt.mpr hdays
  rw [dueDate, if_neg hneg]

/-- Where the calendar reaches that far, the days are added to the date of the order. -/
theorem dayNumber_dueDate (hdays : 0 ≤ days.toInt) (h : Reaches orderDate days.toInt) :
    (dueDate orderDate days).dayNumber = orderDate.dayNumber + days.toInt := by
  have hcast : (days.toInt.toNat : Int) = days.toInt := Int.toNat_of_nonneg hdays
  rw [Reaches, ← hcast] at h
  obtain ⟨due, hdue, hnumber⟩ := Date.exists_addDays?_of_le h
  rw [dueDate_of_nonneg hdays, hdue, Option.getD_some, hnumber, hcast]

/-- Where it does not, the part is due on the date of the order. -/
theorem dueDate_of_not_reaches (hdays : 0 ≤ days.toInt) (h : ¬Reaches orderDate days.toInt) :
    dueDate orderDate days = orderDate := by
  have hcast : (days.toInt.toNat : Int) = days.toInt := Int.toNat_of_nonneg hdays
  rw [Reaches, ← hcast, Int.not_le] at h
  rw [dueDate_of_nonneg hdays, Date.addDays?_of_lt h, Option.getD_none]

/-- Nothing is due before it is ordered: for negative days, and for days beyond the calendar, the
date of the order stands in. -/
theorem le_dueDate (orderDate : Date) (days : Int32) : orderDate ≤ dueDate orderDate days := by
  by_cases hdays : 0 ≤ days.toInt
  · by_cases h : Reaches orderDate days.toInt
    · rw [Date.le_iff, dayNumber_dueDate hdays h]
      omega
    · rw [dueDate_of_not_reaches hdays h]
      exact Int.le_refl _
  · have hneg : days < 0 := by
      rw [Int32.lt_iff_toInt_lt]
      exact Int.not_le.mp hdays
    rw [dueDate, if_pos hneg]
    exact Int.le_refl _

/-! ## The due dates of a schedule -/

theorem map_dueDate_installments (orderDate : Date) (total : Amount) (lines : List TermLine) :
    (installments orderDate total lines).map Installment.dueDate =
      (inOrder lines).map fun line => dueDate orderDate line.days := by
  have hparts := congrArg (List.map Prod.snd) (map_installments orderDate total lines)
  rwa [List.map_map, List.map_map] at hparts

-- Where days never decrease, the lines that the calendar reaches come first.
theorem exists_append_of_days_le (orderDate : Date) {lines : List TermLine}
    (h : lines.Pairwise fun a b => a.days.toInt ≤ b.days.toInt) :
    ∃ near far, lines = near ++ far ∧ (∀ line ∈ near, Reaches orderDate line.days.toInt) ∧
      ∀ line ∈ far, ¬Reaches orderDate line.days.toInt := by
  induction lines with
  | nil => exact ⟨[], [], rfl, by simp, by simp⟩
  | cons line lines ih =>
    obtain ⟨hline, hlines⟩ := List.pairwise_cons.mp h
    by_cases hreaches : Reaches orderDate line.days.toInt
    · obtain ⟨near, far, rfl, hnear, hfar⟩ := ih hlines
      exact ⟨line :: near, far, rfl, List.forall_mem_cons.mpr ⟨hreaches, hnear⟩, hfar⟩
    · refine ⟨[], line :: lines, rfl, by simp, List.forall_mem_cons.mpr ⟨hreaches, ?_⟩⟩
      intro other hother
      have hdays := hline other hother
      rw [Reaches] at *
      omega

/-! ## Lines that the calendar reaches, and those beyond -/

section

variable {orderDate : Date} {lines : List TermLine} (hdays : ∀ line ∈ lines, 0 ≤ line.days.toInt)
include hdays

theorem map_dueDate_of_not_reaches (h : ∀ line ∈ lines, ¬Reaches orderDate line.days.toInt) :
    (lines.map fun line => dueDate orderDate line.days) =
      List.replicate lines.length orderDate :=
  List.map_eq_replicate_iff.mpr fun line hline =>
    dueDate_of_not_reaches (hdays line hline) (h line hline)

theorem map_dayNumber_of_reaches (h : ∀ line ∈ lines, Reaches orderDate line.days.toInt) :
    (lines.map fun line => dueDate orderDate line.days).map Date.dayNumber =
      lines.map fun line => orderDate.dayNumber + line.days.toInt := by
  rw [List.map_map]
  exact List.map_congr_left fun line hline => dayNumber_dueDate (hdays line hline) (h line hline)

/-- More days mean a later date, as long as the calendar reaches. -/
theorem pairwise_dueDate_of_reaches (h : ∀ line ∈ lines, Reaches orderDate line.days.toInt)
    (hmono : lines.Pairwise fun a b => a.days.toInt ≤ b.days.toInt) :
    (lines.map fun line => dueDate orderDate line.days).Pairwise (· ≤ ·) := by
  rw [List.pairwise_map]
  apply hmono.imp_of_mem
  intro a b ha hb hle
  rw [Date.le_iff, dayNumber_dueDate (hdays a ha) (h a ha), dayNumber_dueDate (hdays b hb) (h b hb)]
  omega

end

end TermLine

/-- Nothing is due before the order.  Where the days of the lines never decrease, the parts whose
day the calendar has come first, each is due on that day, and none is due before one that comes
earlier; the parts after them are due on the day of the order. -/
theorem dueDates_in_order (orderDate : Date) (total : Amount) (lines : List TermLine)
    (hdays : ∀ line ∈ lines, 0 ≤ line.days.toInt)
    (hmono : (TermLine.inOrder lines).Pairwise fun a b => a.days.toInt ≤ b.days.toInt) :
    (∀ part ∈ installments orderDate total lines, orderDate ≤ part.dueDate) ∧
    ∃ near far : List TermLine,
      TermLine.inOrder lines = near ++ far ∧
      (∀ line ∈ near, Reaches orderDate line.days.toInt) ∧
      (∀ line ∈ far, ¬Reaches orderDate line.days.toInt) ∧
      ∃ due : List Date,
        (installments orderDate total lines).map Installment.dueDate =
          due ++ List.replicate far.length orderDate ∧
        due.map Date.dayNumber =
          near.map (fun line => orderDate.dayNumber + line.days.toInt) ∧
        due.Pairwise (· ≤ ·) := by
  rw [TermLine.map_dueDate_installments]
  constructor
  · intro part hpart
    have hmem := List.mem_map_of_mem (f := Installment.dueDate) hpart
    rw [TermLine.map_dueDate_installments] at hmem
    obtain ⟨line, -, hline⟩ := List.mem_map.mp hmem
    rw [← hline]
    exact TermLine.le_dueDate orderDate line.days
  · obtain ⟨near, far, hlines, hnear, hfar⟩ := TermLine.exists_append_of_days_le orderDate hmono
    have hnonneg : ∀ line ∈ near ++ far, 0 ≤ line.days.toInt := by
      intro line hline
      rw [← hlines] at hline
      exact hdays line (TermLine.mem_inOrder.mp hline)
    obtain ⟨hnearDays, hfarDays⟩ := List.forall_mem_append.mp hnonneg
    have hnumbers := TermLine.map_dayNumber_of_reaches hnearDays hnear
    have hsorted := (List.pairwise_append.mp (hlines ▸ hmono)).1
    have hpairwise := TermLine.pairwise_dueDate_of_reaches hnearDays hnear hsorted
    refine ⟨near, far, hlines, hnear, hfar, _, ?_, hnumbers, hpairwise⟩
    rw [hlines, List.map_append, TermLine.map_dueDate_of_not_reaches hfarDays hfar]

def newYear : Date := ⟨2024, 1, 1, by decide⟩

def farLines : List TermLine :=
  [⟨1, 1, .percent, 5000, 95006513⟩, ⟨2, 2, .balance, 0, 95006514⟩]

theorem inOrder_farLines : TermLine.inOrder farLines = farLines := by
  rw [TermLine.inOrder_eq_insertionSort]
  decide

-- One part is due on the last day of the calendar, and one would be due the day after.
theorem dueDates_in_order_to_the_last_day :
    (∀ line ∈ farLines, 0 ≤ line.days.toInt) ∧
      ((TermLine.inOrder farLines).Pairwise fun a b => a.days.toInt ≤ b.days.toInt) ∧
      (∀ part ∈ installments newYear 10000 farLines, newYear ≤ part.dueDate) ∧
      ∃ near far : List TermLine,
        TermLine.inOrder farLines = near ++ far ∧
        (∀ line ∈ near, Reaches newYear line.days.toInt) ∧
        (∀ line ∈ far, ¬Reaches newYear line.days.toInt) ∧
        ∃ due : List Date,
          (installments newYear 10000 farLines).map Installment.dueDate =
            due ++ List.replicate far.length newYear ∧
          due.map Date.dayNumber =
            near.map (fun line => newYear.dayNumber + line.days.toInt) ∧
          due.Pairwise (· ≤ ·) := by
  have hdays : ∀ line ∈ farLines, 0 ≤ line.days.toInt := by decide
  have hmono :
      (TermLine.inOrder farLines).Pairwise fun a b => a.days.toInt ≤ b.days.toInt := by
    rw [inOrder_farLines]
    decide
  exact ⟨hdays, hmono, dueDates_in_order newYear 10000 farLines hdays hmono⟩

-- A part that would be due the day after the calendar ends is due before one that comes earlier.
theorem due_earlier_beyond_the_calendar :
    (∀ line ∈ farLines, 0 ≤ line.days.toInt) ∧
      ((TermLine.inOrder farLines).Pairwise fun a b => a.days.toInt ≤ b.days.toInt) ∧
      (installments newYear 10000 farLines).map Installment.dueDate =
        [⟨262142, 12, 31, by decide⟩, newYear] ∧
      ¬((installments newYear 10000 farLines).map Installment.dueDate).Pairwise (· ≤ ·) := by
  rw [TermLine.map_dueDate_installments, inOrder_farLines]
  decide

end Daybook.Document
