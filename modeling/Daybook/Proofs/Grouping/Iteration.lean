import Daybook.Grouping.Cursor
import Daybook.Proofs.Grouping.Runs
import Mathlib.Data.List.TakeWhile

/-!
# Documents one by one

The documents of a list of rows are those of its runs, and a cursor over the rows gives exactly
these, each on one call, and nothing on any later call.
-/

namespace Daybook.Grouping.Shape

universe u v w x

variable {Row : Type u} {Key : Type v} {State : Type w} {Out : Type x} [BEq Key]

/-! ## Documents of a list -/

theorem batches_map_push (rows : List Row) : Step.batches (rows.map .push) = [rows] := by
  induction rows with
  | nil => rfl
  | cons row rows ih => rw [List.map_cons, Step.batches, ih, List.modifyHead_cons]

theorem groupFrom_cons (shape : Shape Row Key State Out) (grouper : Grouper Key State) (row : Row)
    (rows : List Row) :
    shape.groupFrom grouper (row :: rows) =
      (shape.push grouper row).1.toList ++ shape.groupFrom (shape.push grouper row).2 rows := rfl

/-- Folding a list is pushing its rows and finishing once. -/
theorem groupFrom_eq_run (shape : Shape Row Key State Out) (grouper : Grouper Key State)
    (rows : List Row) :
    shape.groupFrom grouper rows =
      (shape.run grouper (rows.map .push ++ [.finish])).reduceOption := by
  induction rows generalizing grouper with
  | nil =>
    rw [groupFrom, List.map_nil, List.nil_append, run_finish_cons]
    cases (shape.finish grouper).1 <;> rfl
  | cons row rows ih =>
    rw [groupFrom_cons, List.map_cons, List.cons_append, run_push_cons, ih]
    cases (shape.push grouper row).1 <;> rfl

-- The documents of a list of rows are those of its runs, in order.
theorem group_map_some [EquivBEq Key] (shape : Shape Row Key State Out) (rows : List Row) :
    (shape.group rows).map some = (shape.runs rows).map shape.runDocument? := by
  rw [group, groupFrom_eq_run, ← emitted, emitted_map_some, cuts, batches_map_push,
    List.flatMap_singleton]

-- The documents that the runs make are those of the rows.
theorem group_of_runs [EquivBEq Key] {shape : Shape Row Key State Out} {rows : List Row}
    {outs : List Out} (h : (shape.runs rows).map shape.runDocument? = outs.map some) :
    shape.group rows = outs := by
  rw [← shape.group_map_some] at h
  exact List.map_injective_iff.mpr (fun _ _ => Option.some.inj) h

/-- Only no rows make no documents. -/
theorem group_eq_nil_iff [EquivBEq Key] (shape : Shape Row Key State Out) (rows : List Row) :
    shape.group rows = [] ↔ rows = [] := by
  constructor
  · intro h
    have hruns := shape.group_map_some rows
    rw [h, List.map_nil, eq_comm, List.map_eq_nil_iff] at hruns
    rw [← shape.flatten_runs rows, hruns, List.flatten_nil]
  · rintro rfl
    rfl

/-! ## Cursors -/

def remaining (shape : Shape Row Key State Out) (cursor : Cursor Row Key State) : List Out :=
  if cursor.exhausted then [] else shape.groupFrom cursor.grouper cursor.source.rest

theorem remaining_draw (shape : Shape Row Key State Out) (grouper : Grouper Key State)
    (pulled refused : Nat) (rows : List Row) :
    (shape.draw grouper pulled refused rows).1 = (shape.groupFrom grouper rows).head? ∧
      shape.remaining (shape.draw grouper pulled refused rows).2 =
        (shape.groupFrom grouper rows).tail := by
  induction rows generalizing grouper pulled with
  | nil =>
    rw [draw, groupFrom]
    cases (shape.finish grouper).1 <;> exact ⟨rfl, rfl⟩
  | cons row rows ih =>
    rw [draw, groupFrom_cons]
    cases hout : (shape.push grouper row).1 with
    | none =>
      have hpush : shape.push grouper row = (none, (shape.push grouper row).2) := by rw [← hout]
      rw [hpush]
      exact ih (shape.push grouper row).2 (pulled + 1)
    | some out =>
      have hpush : shape.push grouper row = (some out, (shape.push grouper row).2) := by
        rw [← hout]
      rw [hpush]
      exact ⟨rfl, rfl⟩

-- A call gives the first of the remaining documents and leaves the others.
theorem remaining_next (shape : Shape Row Key State Out) (cursor : Cursor Row Key State) :
    (shape.next cursor).1 = (shape.remaining cursor).head? ∧
      shape.remaining (shape.next cursor).2 = (shape.remaining cursor).tail := by
  by_cases hexhausted : cursor.exhausted
  · simp [next, remaining, hexhausted]
  · rw [next, if_neg hexhausted, remaining, if_neg hexhausted]
    exact shape.remaining_draw _ _ _ _

/-- The calls of a cursor give one by one what is left. -/
theorem takeNext_map_fst (shape : Shape Row Key State Out) (cursor : Cursor Row Key State)
    (calls : Nat) :
    (shape.takeNext cursor calls).map Prod.fst =
      (List.range calls).map fun k => (shape.remaining cursor)[k]? := by
  induction calls generalizing cursor with
  | zero => rfl
  | succ calls ih =>
    obtain ⟨hhead, htail⟩ := shape.remaining_next cursor
    rw [takeNext, List.map_cons, ih, List.range_succ_eq_map, List.map_cons, List.map_map]
    simp [hhead, htail, Function.comp_def, List.head?_eq_getElem?]

/-- The calls of a cursor at the first of some rows give these documents, and after the last of them
nothing, however often it is asked. -/
def Iterates (shape : Shape Row Key State Out) (rows : List Row) (outs : List Out) : Prop :=
  ∀ calls, (shape.takeNext (shape.cursor rows) calls).map Prod.fst =
    (List.range calls).map fun k => outs[k]?

/-- Iterating gives what folding the whole list gives. -/
theorem iterates_group (shape : Shape Row Key State Out) (rows : List Row) :
    shape.Iterates rows (shape.group rows) := shape.takeNext_map_fst (shape.cursor rows)

/-! ## Runs by their first key

A grouper compares each row with the first row of the document that it is filling, so its documents
are told by the first keys alone, whatever the comparison of keys is like.  Where it is symmetric
and transitive these are the maximal runs of equal keys.
-/

/-- Rows cut wherever a key is not that of the first row since the last cut. -/
def runsByFirst (shape : Shape Row Key State Out) : List Row → List (List Row)
  | [] => []
  | first :: rows =>
    (first :: rows.takeWhile (shape.sameKey first)) ::
      shape.runsByFirst (rows.dropWhile (shape.sameKey first))
termination_by rows => rows.length
decreasing_by
  exact Nat.lt_succ_of_le (List.dropWhile_suffix _).length_le

theorem runsByFirst_of_last {shape : Shape Row Key State Out} {first : Row} {rows : List Row}
    (h : ∀ row ∈ rows, shape.sameKey first row) :
    shape.runsByFirst (first :: rows) = [first :: rows] := by
  rw [runsByFirst, List.takeWhile_eq_self_iff.mpr h, List.dropWhile_eq_nil_iff.mpr h, runsByFirst]

/-- A run ends at the first row with another key. -/
theorem runsByFirst_of_more {shape : Shape Row Key State Out} {first other : Row}
    {rows later : List Row} (h : ∀ row ∈ rows, shape.sameKey first row)
    (hother : ¬shape.sameKey first other) :
    shape.runsByFirst (first :: (rows ++ other :: later)) =
      (first :: rows) :: shape.runsByFirst (other :: later) := by
  rw [runsByFirst, List.takeWhile_append_of_pos h, List.dropWhile_append_of_pos h,
    List.takeWhile_cons_of_neg hother, List.dropWhile_cons_of_neg hother, List.append_nil]

-- A run goes on to the end of the rows or to the first row of another key.
theorem last_or_more (shape : Shape Row Key State Out) (first : Row) (rows : List Row) :
    (∀ row ∈ rows, shape.sameKey first row) ∨
      ∃ (same : List Row) (other : Row) (later : List Row), rows = same ++ other :: later ∧
        (∀ row ∈ same, shape.sameKey first row) ∧ ¬shape.sameKey first other := by
  induction rows with
  | nil => exact .inl nofun
  | cons row rows ih =>
    by_cases hrow : shape.sameKey first row
    · rcases ih with hall | ⟨same, other, later, rfl, hsame, hother⟩
      · exact .inl (List.forall_mem_cons.mpr ⟨hrow, hall⟩)
      · exact .inr ⟨row :: same, other, later, rfl, List.forall_mem_cons.mpr ⟨hrow, hsame⟩, hother⟩
    · exact .inr ⟨[], row, rows, rfl, nofun, hrow⟩

/-- What holds of no rows, of rows of one key, and of a run ahead of rows of which it holds, holds
of all rows. -/
theorem runInduction (shape : Shape Row Key State Out) {motive : List Row → Prop} (nil : motive [])
    (last : ∀ first rows, (∀ row ∈ rows, shape.sameKey first row) → motive (first :: rows))
    (more : ∀ first same other later, (∀ row ∈ same, shape.sameKey first row) →
      ¬shape.sameKey first other → motive (other :: later) →
        motive (first :: (same ++ other :: later))) (rows : List Row) : motive rows := by
  induction rows using runsByFirst.induct shape with
  | case1 => exact nil
  | case2 first rows ih =>
    rcases shape.last_or_more first rows with hall | ⟨same, other, later, rfl, hsame, hother⟩
    · exact last first rows hall
    · rw [List.dropWhile_append_of_pos hsame, List.dropWhile_cons_of_neg hother] at ih
      exact more first same other later hsame hother ih

/-! ### Documents of a list -/

theorem group_cons (shape : Shape Row Key State Out) (row : Row) (rows : List Row) :
    shape.group (row :: rows) =
      shape.groupFrom ⟨some (shape.key row, shape.begin row)⟩ rows := rfl

-- The rows up to the next key go to the document that is being filled.
theorem groupFrom_current (shape : Shape Row Key State Out) (first : Row) (state : State)
    (rows : List Row) :
    shape.groupFrom ⟨some (shape.key first, state)⟩ rows =
      shape.close ((rows.takeWhile (shape.sameKey first)).foldl shape.absorb state) ::
        shape.group (rows.dropWhile (shape.sameKey first)) := by
  induction rows generalizing state with
  | nil => rfl
  | cons row rows ih =>
    rw [groupFrom_cons]
    by_cases hsame : shape.sameKey first row
    · rw [push_of_sameKey rfl hsame, List.takeWhile_cons_of_pos hsame,
        List.dropWhile_cons_of_pos hsame, List.foldl_cons, ← ih]
      rfl
    · rw [push_of_not_sameKey rfl hsame, List.takeWhile_cons_of_neg hsame,
        List.dropWhile_cons_of_neg hsame, group_cons]
      rfl

/-- The documents are those of the runs, also where a key is not equal to itself. -/
theorem group_map_some_runsByFirst (shape : Shape Row Key State Out) (rows : List Row) :
    (shape.group rows).map some = (shape.runsByFirst rows).map shape.runDocument? := by
  induction rows using runsByFirst.induct shape with
  | case1 =>
    rw [runsByFirst]
    rfl
  | case2 first rows ih =>
    rw [group_cons, groupFrom_current, List.map_cons, ih, runsByFirst, List.map_cons]
    rfl

/-! ### Runs of equal keys -/

variable [PartialEquivBEq Key]

theorem runs_of_sameKey {shape : Shape Row Key State Out} {first : Row} {rows : List Row}
    (h : ∀ row ∈ rows, shape.sameKey first row) : shape.runs (first :: rows) = [first :: rows] := by
  apply List.splitBy_of_isChain (List.cons_ne_nil first rows)
  apply List.Pairwise.isChain
  refine List.pairwise_cons.mpr ⟨h, ?_⟩
  exact List.pairwise_of_forall_mem_list fun a ha b hb =>
    sameKey_trans (sameKey_symm (h a ha)) (h b hb)

-- The last row of a run has the first key, which the row after the run has not.
theorem runs_of_more {shape : Shape Row Key State Out} {first other : Row} {rows later : List Row}
    (h : ∀ row ∈ rows, shape.sameKey first row) (hother : ¬shape.sameKey first other) :
    shape.runs (first :: (rows ++ other :: later)) =
      (first :: rows) :: shape.runs (other :: later) := by
  have hcut : ∀ last ∈ (first :: rows).getLast?, shape.sameKey last other = false := by
    intro last hlast
    rw [Bool.eq_false_iff]
    intro hsame
    rcases List.mem_cons.mp (List.mem_of_getLast? hlast) with rfl | hmem
    · exact hother hsame
    · exact hother (sameKey_trans (h last hmem) hsame)
  rw [← List.cons_append, runs, List.splitBy_append_cons later hcut, ← runs, runs_of_sameKey h,
    List.singleton_append, ← runs]

/-- Comparing with the first row of a run or with the neighbour cuts the rows alike. -/
theorem runsByFirst_eq_runs (shape : Shape Row Key State Out) (rows : List Row) :
    shape.runsByFirst rows = shape.runs rows := by
  induction rows using shape.runInduction with
  | nil => rw [runsByFirst, runs_nil]
  | last first rows hall => rw [runsByFirst_of_last hall, runs_of_sameKey hall]
  | more first same other later hsame hother ih =>
    rw [runsByFirst_of_more hsame hother, runs_of_more hsame hother, ih]

end Daybook.Grouping.Shape
