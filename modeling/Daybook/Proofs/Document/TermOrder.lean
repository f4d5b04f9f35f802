import Daybook.Document.SalesOrder
import Mathlib.Data.List.Sort

/-!
# The order of term lines

Term lines come by sequence number and then by id, and lines that have both in common stay as they
arrived.  So the order of a list is that of its tail with the first line put in front of the first
one that may come after it.  A schedule has its sequence numbers and due dates from the lines in
this order.
-/

namespace Daybook.Document.TermLine

/-- Lines come by sequence, and by id where their sequence is the same. -/
theorem comesBefore_iff {a b : TermLine} :
    a.comesBefore b = true ↔
      a.sequence.toInt < b.sequence.toInt ∨
        a.sequence.toInt = b.sequence.toInt ∧ a.id.toInt ≤ b.id.toInt := by
  rw [comesBefore, Bool.or_eq_true, Bool.and_eq_true, decide_eq_true_iff, decide_eq_true_iff,
    beq_iff_eq, Int32.lt_iff_toInt_lt, Int64.le_iff_toInt_le, Int32.toInt_inj]

theorem comesBefore_trans (a b c : TermLine) (hab : a.comesBefore b = true)
    (hbc : b.comesBefore c = true) : a.comesBefore c = true := by
  rw [comesBefore_iff] at *
  omega

/-- Of any two lines one comes before the other, or both do if they agree in place. -/
theorem comesBefore_total (a b : TermLine) : (a.comesBefore b || b.comesBefore a) = true := by
  rw [Bool.or_eq_true, comesBefore_iff, comesBefore_iff]
  omega

theorem inOrder_perm (lines : List TermLine) : (inOrder lines).Perm lines :=
  List.mergeSort_perm lines comesBefore

@[simp] theorem mem_inOrder {line : TermLine} {lines : List TermLine} :
    line ∈ inOrder lines ↔ line ∈ lines :=
  List.mem_mergeSort

theorem pairwise_inOrder (lines : List TermLine) :
    (inOrder lines).Pairwise fun a b => a.comesBefore b = true :=
  List.pairwise_mergeSort comesBefore_trans comesBefore_total lines

/-! ## Lines that differ in their place -/

def place (line : TermLine) : Int32 × Int64 := (line.sequence, line.id)

/-- Only lines that agree in sequence and id come before each other. -/
theorem place_eq_of_comesBefore {a b : TermLine} (hab : a.comesBefore b = true)
    (hba : b.comesBefore a = true) : a.place = b.place := by
  rw [comesBefore_iff] at hab hba
  have hsequence : a.sequence = b.sequence := Int32.toInt_inj.mp (by omega)
  have hid : a.id = b.id := Int64.toInt_inj.mp (by omega)
  exact Prod.ext hsequence hid

-- No two lines share a place, so there is one order only.
theorem inOrder_eq_of_perm {lines others : List TermLine} (h : lines.Perm others)
    (hnodup : (lines.map place).Nodup) : inOrder lines = inOrder others := by
  have hperm : (inOrder lines).Perm (inOrder others) :=
    (inOrder_perm lines).trans (h.trans (inOrder_perm others).symm)
  refine hperm.eq_of_pairwise ?_ (pairwise_inOrder lines) (pairwise_inOrder others)
  intro a b ha hb hab hba
  exact List.inj_on_of_nodup_map hnodup (mem_inOrder.mp ha) (h.mem_iff.mpr (mem_inOrder.mp hb))
    (place_eq_of_comesBefore hab hba)

/-! ## Order by insertion -/

-- The line goes in front of the first one that may come after it.
theorem orderedInsert_append {line : TermLine} {before after : List TermLine}
    (hbefore : ∀ other ∈ before, line.comesBefore other = false)
    (hafter : ∀ other ∈ after.head?, line.comesBefore other = true) :
    (before ++ after).orderedInsert (comesBefore · ·) line = before ++ line :: after := by
  induction before with
  | nil =>
    cases after with
    | nil => rfl
    | cons other after =>
      rw [List.nil_append, List.orderedInsert_cons, if_pos (hafter other rfl)]
      rfl
  | cons other before ih =>
    have hother : ¬line.comesBefore other = true := by
      rw [hbefore other List.mem_cons_self]
      exact Bool.false_ne_true
    rw [List.cons_append, List.orderedInsert_cons, if_neg hother,
      ih fun b hb => hbefore b (List.mem_cons_of_mem other hb)]
    rfl

theorem inOrder_cons (line : TermLine) (lines : List TermLine) :
    inOrder (line :: lines) = (inOrder lines).orderedInsert (comesBefore · ·) line := by
  obtain ⟨before, after, hcons, hlines, hbefore⟩ :=
    List.mergeSort_cons comesBefore_trans comesBefore_total line lines
  have hsorted := pairwise_inOrder (line :: lines)
  rw [inOrder, hcons] at hsorted
  have hafter : ∀ other ∈ after, line.comesBefore other = true :=
    (List.pairwise_cons.mp (List.pairwise_append.mp hsorted).2.1).1
  rw [inOrder, hcons, inOrder, hlines]
  symm
  apply orderedInsert_append
  · intro other hother
    simpa using hbefore other hother
  · intro other hother
    exact hafter other (List.mem_of_mem_head? hother)

/-- Sorting is insertion sort, which is what one more line at either end can be followed through. -/
theorem inOrder_eq_insertionSort (lines : List TermLine) :
    inOrder lines = lines.insertionSort (comesBefore · ·) := by
  induction lines with
  | nil => exact List.mergeSort_nil
  | cons line lines ih => rw [inOrder_cons, ih, List.insertionSort_cons]

theorem orderedInsert_concat {line rest : TermLine} (h : line.comesBefore rest = true)
    (lines : List TermLine) :
    (lines ++ [rest]).orderedInsert (comesBefore · ·) line =
      lines.orderedInsert (comesBefore · ·) line ++ [rest] := by
  induction lines with
  | nil =>
    rw [List.nil_append, List.orderedInsert_cons, if_pos h]
    rfl
  | cons other lines ih =>
    rw [List.cons_append, List.orderedInsert_cons, List.orderedInsert_cons, ih]
    split <;> rfl

-- A line that may come after all others is the last if it arrives last.
theorem inOrder_concat {lines : List TermLine} {rest : TermLine}
    (h : ∀ line ∈ lines, line.comesBefore rest = true) :
    inOrder (lines ++ [rest]) = inOrder lines ++ [rest] := by
  induction lines with
  | nil =>
    rw [List.nil_append, inOrder, inOrder, List.mergeSort_singleton, List.mergeSort_nil]
    rfl
  | cons line lines ih =>
    have hrest := ih fun other hother => h other (List.mem_cons_of_mem line hother)
    rw [List.cons_append, inOrder_cons, hrest, orderedInsert_concat (h line List.mem_cons_self),
      inOrder_cons]

/-! ## Lines of a schedule -/

-- What an installment has from its line alone.
theorem map_installmentsFrom (orderDate : Date) (total allocated : Amount)
    (lines : List TermLine) :
    (installmentsFrom orderDate total allocated lines).map
        (fun installment => (installment.sequence, installment.dueDate)) =
      lines.map fun line => (line.sequence, dueDate orderDate line.days) := by
  induction lines generalizing allocated with
  | nil => rfl
  | cons line lines ih => rw [installmentsFrom, List.map_cons, ih, List.map_cons]

/-- Sequences and due dates of a schedule are those of the lines in order, whatever they take. -/
theorem map_installments (orderDate : Date) (total : Amount) (lines : List TermLine) :
    (installments orderDate total lines).map
        (fun installment => (installment.sequence, installment.dueDate)) =
      (inOrder lines).map fun line => (line.sequence, dueDate orderDate line.days) :=
  map_installmentsFrom orderDate total 0 (inOrder lines)

end Daybook.Document.TermLine
