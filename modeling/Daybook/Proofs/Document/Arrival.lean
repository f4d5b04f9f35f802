import Daybook.Proofs.Document.RoundTrip
import Daybook.Proofs.Document.TermOrder

/-!
# Arrival of term lines

A schedule is made of term lines in their order, not in the order in which they arrive.  Of lines
that share an id a sales order keeps the one that arrives first, so which line that is does matter,
and nothing else does.
-/

namespace Daybook.Document

open Grouping

/-! ## Lines of a schedule -/

theorem TermLine.sequence_le_of_comesBefore {a b : TermLine} (h : a.comesBefore b = true) :
    a.sequence ≤ b.sequence := by
  rw [comesBefore_iff] at h
  rw [Int32.le_iff_toInt_le]
  omega

theorem pairwise_sequence_installments (orderDate : Date) (total : Amount)
    (lines : List TermLine) :
    (installments orderDate total lines).Pairwise fun a b => a.sequence ≤ b.sequence := by
  have hlines : ((TermLine.inOrder lines).map fun line =>
      (line.sequence, TermLine.dueDate orderDate line.days)).Pairwise fun a b => a.1 ≤ b.1 :=
    List.pairwise_map.mpr
      ((TermLine.pairwise_inOrder lines).imp TermLine.sequence_le_of_comesBefore)
  rw [← TermLine.map_installments orderDate total lines] at hlines
  simpa only [List.pairwise_map] using hlines

/-- Lines that differ in sequence or id have one order only, so they can come in any. -/
theorem installments_eq_of_perm (orderDate : Date) (total : Amount) {lines others : List TermLine}
    (h : lines.Perm others) (hnodup : (lines.map TermLine.place).Nodup) :
    installments orderDate total lines = installments orderDate total others := by
  rw [installments, installments, TermLine.inOrder_eq_of_perm h hnodup]

/-! ## Rows of an order -/

/-- A sales order as it is joined.  There is at least one row for it, and columns are all NULL where
there is nothing to join. -/
structure JoinedOrder where
  header : SalesOrderHeader
  items : List ItemColumns
  lines : List TermLineColumns
  items_ne_nil : items ≠ []
  lines_ne_nil : lines ≠ []

namespace JoinedOrder

def rows (order : JoinedOrder) : List SalesOrderRow :=
  beside order.header order.items order.lines

def termLines (order : JoinedOrder) : List TermLine :=
  order.lines.filterMap TermLine.of?

/-- The term lines of an order arrive in another way, under every item alike.  Of lines that share
an id the same one is still the first. -/
structure Rearranged (order other : JoinedOrder) : Prop where
  header : order.header = other.header
  items : order.items = other.items
  lines : order.lines.Perm other.lines
  first : ∀ id, order.termLines.find? (fun line => line.id == id) =
    other.termLines.find? fun line => line.id == id

-- Lines of which no two share an id may arrive in any way.
theorem rearranged_of_nodup {order other : JoinedOrder} (header : order.header = other.header)
    (items : order.items = other.items) (lines : order.lines.Perm other.lines)
    (hnodup : (order.termLines.map TermLine.id).Nodup) : order.Rearranged other where
  header := header
  items := items
  lines := lines
  first := Children.find?_eq_of_perm TermLine.id (lines.filterMap TermLine.of?) hnodup

def salesOrder (order : JoinedOrder) : SalesOrder :=
  .of order.header
    (((order.items.filterMap LineItem.of?).flatMap (List.replicate order.lines.length)).foldl
      (Children.addAdjacent LineItem.id) {}).items
    (Children.firsts TermLine.id [] order.termLines)

theorem runDocument?_rows (order : JoinedOrder) :
    salesOrderShape.runDocument? order.rows = some order.salesOrder :=
  runDocument?_beside order.header order.items_ne_nil order.lines_ne_nil

/-- Orders that differ from their neighbours in id are read one by one. -/
theorem group_rows {orders : List JoinedOrder}
    (hneighbours : orders.IsChain fun a b => a.header.id ≠ b.header.id) :
    salesOrderShape.group (orders.flatMap rows) = orders.map salesOrder :=
  Shape.group_flatMap (fun order : JoinedOrder => order.header.id)
    (fun order => beside_ne_nil order.header order.items_ne_nil order.lines_ne_nil)
    (fun _ _ hrow => congrArg SalesOrderHeader.id (header_of_mem_beside hrow))
    (fun order _ => order.runDocument?_rows) hneighbours

/-- Orders whose term lines come in another order have the same schedule. -/
theorem Rearranged.schedule_eq {order other : JoinedOrder} (h : order.Rearranged other) :
    order.salesOrder.schedule = other.salesOrder.schedule := by
  have hlines : (Children.firsts TermLine.id [] order.termLines).Perm
      (Children.firsts TermLine.id [] other.termLines) :=
    Children.firsts_perm TermLine.id h.first []
  have hplaces : ((Children.firsts TermLine.id [] order.termLines).map TermLine.place).Nodup := by
    have hids := Children.nodup_firsts TermLine.id [] order.termLines
    refine List.Nodup.of_map Prod.snd ?_
    rwa [List.map_map]
  show installments _ _ _ = installments _ _ _
  rw [h.header, h.items, h.lines.length_eq, installments_eq_of_perm _ _ hlines hplaces]

theorem group_schedules {orders others : List JoinedOrder}
    (hneighbours : orders.IsChain fun a b => a.header.id ≠ b.header.id)
    (h : List.Forall₂ Rearranged orders others) :
    (salesOrderShape.group (orders.flatMap rows)).map SalesOrder.schedule =
      (salesOrderShape.group (others.flatMap rows)).map SalesOrder.schedule := by
  have hheaders : orders.map header = others.map header := by
    rw [← List.forall₂_eq_eq_eq, List.forall₂_map_left_iff, List.forall₂_map_right_iff]
    exact h.imp fun _ _ hrearranged => hrearranged.header
  have hneighbours' : others.IsChain fun a b => a.header.id ≠ b.header.id := by
    rw [← List.isChain_map header (R := fun a b => a.id ≠ b.id)] at hneighbours ⊢
    rwa [← hheaders]
  rw [group_rows hneighbours, group_rows hneighbours', List.map_map, List.map_map,
    ← List.forall₂_eq_eq_eq, List.forall₂_map_left_iff, List.forall₂_map_right_iff]
  exact h.imp fun _ _ hrearranged => hrearranged.schedule_eq

end JoinedOrder

/-- A schedule does not depend on the order in which term lines arrive.  There is one installment
for each line, by sequence number, and the schedule that rows fold into is the same for rows whose
term lines arrive in another way, as long as those that are kept are the same ones. -/
theorem schedule_of_permuted_lines :
    (∀ (orderDate : Date) (total : Amount) (lines others : List TermLine), lines.Perm others →
      (lines.map TermLine.place).Nodup →
      installments orderDate total lines = installments orderDate total others ∧
        (∃ ordered : List TermLine, ordered.Perm lines ∧
          (installments orderDate total lines).map
              (fun installment => (installment.sequence, installment.dueDate)) =
            ordered.map fun line => (line.sequence, TermLine.dueDate orderDate line.days)) ∧
        (installments orderDate total lines).Pairwise fun a b => a.sequence ≤ b.sequence) ∧
    ∀ orders others : List JoinedOrder,
      orders.IsChain (fun a b => a.header.id ≠ b.header.id) →
      List.Forall₂ JoinedOrder.Rearranged orders others →
      (salesOrderShape.group (orders.flatMap JoinedOrder.rows)).map SalesOrder.schedule =
        (salesOrderShape.group (others.flatMap JoinedOrder.rows)).map SalesOrder.schedule := by
  refine ⟨fun orderDate total lines others hperm hnodup => ⟨?_, ?_, ?_⟩,
    fun orders others hneighbours h => JoinedOrder.group_schedules hneighbours h⟩
  · exact installments_eq_of_perm orderDate total hperm hnodup
  · exact ⟨TermLine.inOrder lines, TermLine.inOrder_perm lines,
      TermLine.map_installments orderDate total lines⟩
  · exact pairwise_sequence_installments orderDate total lines

def boatOrder (id : Int64) (lines : List TermLine) (hne : lines ≠ []) : JoinedOrder where
  header := plainHeader id
  items := [(⟨10, "Boat", 1, 10000, 10000⟩ : LineItem).columns]
  lines := lines.map TermLine.columns
  items_ne_nil := List.cons_ne_nil _ _
  lines_ne_nil := mt List.map_eq_nil_iff.mp hne

/-- The second order has an id twice; the line that is kept for it stays in front of the other. -/
theorem schedule_of_permuted_boat_lines :
    let deposit : TermLine := ⟨1, 1, .percent, 3000, 0⟩
    let rest : TermLine := ⟨2, 2, .balance, 0, 30⟩
    let late : TermLine := ⟨1, 3, .fixed, 10, 60⟩
    let orders :=
      [boatOrder 1 [rest, deposit] (by decide), boatOrder 2 [rest, deposit, late] (by decide)]
    let others :=
      [boatOrder 1 [deposit, rest] (by decide), boatOrder 2 [deposit, late, rest] (by decide)]
    [rest, deposit, late].Perm [deposit, late, rest] ∧
      ([rest, deposit, late].map TermLine.place).Nodup ∧
      installments ⟨2024, 1, 1, by decide⟩ 100 [rest, deposit, late] =
        installments ⟨2024, 1, 1, by decide⟩ 100 [deposit, late, rest] ∧
      orders.IsChain (fun a b => a.header.id ≠ b.header.id) ∧
      List.Forall₂ JoinedOrder.Rearranged orders others ∧
      (salesOrderShape.group (orders.flatMap JoinedOrder.rows)).map SalesOrder.schedule =
        (salesOrderShape.group (others.flatMap JoinedOrder.rows)).map SalesOrder.schedule := by
  intro deposit rest late orders others
  have hperm : [rest, deposit, late].Perm [deposit, late, rest] := by decide
  have hplaces : ([rest, deposit, late].map TermLine.place).Nodup := by decide
  have hneighbours : orders.IsChain fun a b => a.header.id ≠ b.header.id := by decide
  have hfirst : (boatOrder 1 [rest, deposit] (by decide)).Rearranged
      (boatOrder 1 [deposit, rest] (by decide)) :=
    JoinedOrder.rearranged_of_nodup rfl rfl (by decide) (by decide)
  have hsecond : (boatOrder 2 [rest, deposit, late] (by decide)).Rearranged
      (boatOrder 2 [deposit, late, rest] (by decide)) := by
    refine ⟨rfl, rfl, by decide, fun id => ?_⟩
    show [rest, deposit, late].find? (fun line => line.id == id) =
      [deposit, late, rest].find? (fun line => line.id == id)
    by_cases hid : id = 2
    · subst hid
      rfl
    · simp [rest, deposit, late, List.find?_cons, Ne.symm hid]
  have hrearranged : List.Forall₂ JoinedOrder.Rearranged orders others :=
    .cons hfirst (.cons hsecond .nil)
  have hpermuted := schedule_of_permuted_lines
  exact ⟨hperm, hplaces, (hpermuted.1 _ _ _ _ hperm hplaces).1, hneighbours, hrearranged,
    hpermuted.2 orders others hneighbours hrearranged⟩

/-- Of two lines with one id the first to arrive is kept, so which one that is shows in the
schedule. -/
theorem schedule_of_permuted_lines_with_one_id :
    let deposit : TermLine := ⟨1, 1, .percent, 5000, 0⟩
    let rest : TermLine := ⟨1, 2, .balance, 0, 30⟩
    let order := boatOrder 1 [deposit, rest] (by decide)
    let other := boatOrder 1 [rest, deposit] (by decide)
    order.lines.Perm other.lines ∧ (order.termLines.map TermLine.place).Nodup ∧
      (salesOrderShape.group order.rows).map SalesOrder.schedule ≠
        (salesOrderShape.group other.rows).map SalesOrder.schedule := by
  intro deposit rest order other
  have hschedule {order : JoinedOrder} (line : TermLine)
      (hkept : Children.firsts TermLine.id [] order.termLines = [line]) :
      (salesOrderShape.group order.rows).map SalesOrder.schedule =
        [installments order.header.orderDate order.salesOrder.totals.total [line]] := by
    have hgroup := JoinedOrder.group_rows (List.isChain_singleton order)
    rw [List.flatMap_singleton] at hgroup
    rw [hgroup, ← hkept]
    rfl
  refine ⟨by decide, by decide, fun h => ?_⟩
  rw [hschedule deposit (by decide), hschedule rest (by decide)] at h
  have hlines := congrArg (List.map fun installment => (installment.sequence, installment.dueDate))
    (List.cons.inj h).1
  rw [TermLine.map_installments, TermLine.map_installments, TermLine.inOrder_eq_insertionSort,
    TermLine.inOrder_eq_insertionSort] at hlines
  exact absurd hlines (by decide)

end Daybook.Document
