import Daybook.Grouping.Shape
import Daybook.Grouping.Tree
import Mathlib.Data.List.ReduceOption
import Mathlib.Data.List.SplitBy

/-!
# Runs of equal keys

A grouper cuts the rows that it is given at every finish and wherever the key changes between
neighbours.  Each piece makes one document, from all of its rows in order.
-/

namespace Daybook.Grouping

universe u v w x

variable {Row : Type u} {Key : Type v} {State : Type w} {Out : Type x}

/-! ## Cutting rows -/

namespace Step

def row? : Step Row → Option Row
  | push row => some row
  | finish => none

/-- The rows pushed before the first finish, between one finish and the next, and after the last. -/
def batches : List (Step Row) → List (List Row)
  | [] => [[]]
  | push row :: steps => (batches steps).modifyHead (row :: ·)
  | finish :: steps => [] :: batches steps

theorem exists_batches_eq_cons (steps : List (Step Row)) :
    ∃ batch rest, batches steps = batch :: rest := by
  induction steps with
  | nil => exact ⟨[], [], rfl⟩
  | cons step steps ih =>
    obtain ⟨batch, rest, hbatches⟩ := ih
    cases step with
    | push row => exact ⟨row :: batch, rest, by rw [batches, hbatches, List.modifyHead_cons]⟩
    | finish => exact ⟨[], batch :: rest, by rw [batches, hbatches]⟩

/-- Finishing drops no row. -/
theorem flatten_batches (steps : List (Step Row)) :
    (batches steps).flatten = steps.filterMap row? := by
  induction steps with
  | nil => rfl
  | cons step steps ih =>
    obtain ⟨batch, rest, hbatches⟩ := exists_batches_eq_cons steps
    rw [hbatches, List.flatten_cons] at ih
    cases step with
    | push row =>
      rw [batches, hbatches, List.modifyHead_cons, List.flatten_cons, List.cons_append, ih]
      rfl
    | finish =>
      rw [batches, hbatches, List.flatten_cons, List.flatten_cons, List.nil_append, ih]
      rfl

end Step

namespace Shape

variable [BEq Key]

def sameKey (shape : Shape Row Key State Out) (a b : Row) : Bool := shape.key a == shape.key b

/-- The maximal runs of neighbouring rows with equal keys. -/
def runs (shape : Shape Row Key State Out) (rows : List Row) : List (List Row) :=
  rows.splitBy shape.sameKey

def cuts (shape : Shape Row Key State Out) (steps : List (Step Row)) : List (List Row) :=
  (Step.batches steps).flatMap shape.runs

omit [BEq Key] in
/-- The document of a run: opened from its first row, filled with every row of it, the first one
included, and closed.  No rows make no document. -/
def runDocument? (shape : Shape Row Key State Out) (run : List Row) : Option Out :=
  run.head?.map fun first => shape.close (run.foldl shape.absorb (shape.opening first))

def emitted (shape : Shape Row Key State Out) (steps : List (Step Row)) : List Out :=
  (shape.run {} (steps ++ [.finish])).reduceOption

-- Rows need not have keys that equal themselves for this.
theorem sameKey_trans [PartialEquivBEq Key] {shape : Shape Row Key State Out} {a b c : Row}
    (hab : shape.sameKey a b) (hbc : shape.sameKey b c) : shape.sameKey a c := BEq.trans hab hbc

theorem sameKey_symm [PartialEquivBEq Key] {shape : Shape Row Key State Out} {a b : Row}
    (hab : shape.sameKey a b) : shape.sameKey b a := BEq.symm hab

@[simp] theorem runs_nil (shape : Shape Row Key State Out) : shape.runs [] = [] := rfl

@[simp] theorem flatten_runs (shape : Shape Row Key State Out) (rows : List Row) :
    (shape.runs rows).flatten = rows := List.flatten_splitBy _ _

theorem ne_nil_of_mem_runs {shape : Shape Row Key State Out} {rows run : List Row}
    (h : run ∈ shape.runs rows) : run ≠ [] := List.ne_nil_of_mem_splitBy h

/-- The pieces are the pushed rows, in order and without gaps. -/
theorem flatten_cuts (shape : Shape Row Key State Out) (steps : List (Step Row)) :
    (shape.cuts steps).flatten = steps.filterMap Step.row? := by
  rw [cuts, ← Step.flatten_batches]
  induction Step.batches steps with
  | nil => rfl
  | cons batch batches ih =>
    rw [List.flatMap_cons, List.flatten_append, flatten_runs, ih, List.flatten_cons]

theorem ne_nil_of_mem_cuts {shape : Shape Row Key State Out} {steps : List (Step Row)}
    {run : List Row} (h : run ∈ shape.cuts steps) : run ≠ [] := by
  obtain ⟨batch, _, hrun⟩ := List.mem_flatMap.mp h
  exact ne_nil_of_mem_runs hrun

/-! ## What a push does -/

/-- An idle grouper opens a document. -/
theorem push_of_none (shape : Shape Row Key State Out) {grouper : Grouper Key State}
    (h : grouper.current = none) (row : Row) :
    shape.push grouper row = (none, ⟨some (shape.key row, shape.begin row)⟩) := by
  rw [push, h]

/-- A row of the current key is absorbed. -/
theorem push_of_sameKey {shape : Shape Row Key State Out} {grouper : Grouper Key State}
    {first row : Row} {state : State} (h : grouper.current = some (shape.key first, state))
    (hsame : shape.sameKey first row) :
    shape.push grouper row = (none, ⟨some (shape.key first, shape.absorb state row)⟩) := by
  rw [sameKey] at hsame
  rw [push, h]
  show ite _ _ _ = _
  rw [if_pos hsame]

/-- A row of another key closes the document and opens the next with the same row. -/
theorem push_of_not_sameKey {shape : Shape Row Key State Out} {grouper : Grouper Key State}
    {first row : Row} {state : State} (h : grouper.current = some (shape.key first, state))
    (hother : ¬shape.sameKey first row) :
    shape.push grouper row =
      (some (shape.close state), ⟨some (shape.key row, shape.begin row)⟩) := by
  rw [sameKey] at hother
  rw [push, h]
  show ite _ _ _ = _
  rw [if_neg hother]

/-! ## The run that is not over yet -/

/-- The grouper is filling the document of a run whose rows all have the key of its first row. -/
structure Filling (shape : Shape Row Key State Out) (grouper : Grouper Key State)
    (run : List Row) : Prop where
  current : grouper.current = run.head?.map fun first =>
    (shape.key first, run.foldl shape.absorb (shape.opening first))
  alike : ∀ first ∈ run.head?, ∀ row ∈ run, shape.sameKey first row

theorem Filling.empty (shape : Shape Row Key State Out) : shape.Filling {} [] where
  current := rfl
  alike first hfirst := by simp at hfirst

theorem Filling.singleton [ReflBEq Key] (shape : Shape Row Key State Out) (row : Row) :
    shape.Filling ⟨some (shape.key row, shape.begin row)⟩ [row] where
  current := rfl
  alike first hfirst other hother := by
    cases hfirst
    cases List.mem_singleton.mp hother
    exact BEq.refl (shape.key row)

variable [EquivBEq Key] {shape : Shape Row Key State Out} {grouper : Grouper Key State}
  {run : List Row}

/-- Any two rows of the run that is being filled have the same key. -/
theorem Filling.sameKey_of_mem (h : shape.Filling grouper run) {a b : Row} (ha : a ∈ run)
    (hb : b ∈ run) : shape.sameKey a b := by
  cases run with
  | nil => simp at ha
  | cons first others =>
    exact sameKey_trans (sameKey_symm (h.alike first rfl a ha)) (h.alike first rfl b hb)

/-- The run that is being filled is one run. -/
theorem Filling.runs_eq (h : shape.Filling grouper run) (hne : run ≠ []) :
    shape.runs run = [run] := by
  refine List.splitBy_of_isChain hne (List.Pairwise.isChain ?_)
  exact List.pairwise_of_forall_mem_list fun a ha b hb => h.sameKey_of_mem ha hb

-- A finish gives back the document of the rows so far, if there are any.
theorem Filling.finish (h : shape.Filling grouper run) :
    (shape.runs run).map shape.runDocument? = (shape.finish grouper).1.toList.map some := by
  have hcurrent := h.current
  cases run with
  | nil => simp [Shape.finish, hcurrent]
  | cons first others =>
    rw [h.runs_eq (List.cons_ne_nil _ _)]
    simp [Shape.finish, hcurrent, runDocument?]

-- After a push the grouper fills a run again.  What it gives back is what the rows so far lack
-- before the runs of that one and of whatever follows.
theorem Filling.push (h : shape.Filling grouper run) (row : Row) :
    ∃ next, shape.Filling (shape.push grouper row).2 next ∧
      ∀ rest, (shape.runs (run ++ row :: rest)).map shape.runDocument? =
        (shape.push grouper row).1.toList.map some ++
          (shape.runs (next ++ rest)).map shape.runDocument? := by
  have hcurrent := h.current
  cases run with
  | nil =>
    rw [shape.push_of_none hcurrent]
    exact ⟨[row], Filling.singleton shape row, fun rest => rfl⟩
  | cons first others =>
    rw [List.head?_cons, Option.map_some] at hcurrent
    -- A row of the same key joins the run; any other row ends it and is the next one.
    by_cases hkey : shape.sameKey first row
    · rw [push_of_sameKey hcurrent hkey]
      refine ⟨first :: others ++ [row], ⟨?_, ?_⟩, fun rest => by simp⟩
      · show some (shape.key first, _) = some (shape.key first, _)
        rw [List.foldl_append]
        rfl
      · intro head hhead other hother
        cases hhead
        rcases List.mem_append.mp hother with hold | hnew
        · exact h.alike first rfl other hold
        · rwa [List.mem_singleton.mp hnew]
    · have hcut : ∀ last ∈ (first :: others).getLast?, shape.sameKey last row = false := by
        intro last hlast
        have hmem := List.mem_of_getLast? hlast
        rw [Bool.eq_false_iff]
        intro hsame
        exact hkey (sameKey_trans (h.alike first rfl last hmem) hsame)
      rw [push_of_not_sameKey hcurrent hkey]
      refine ⟨[row], Filling.singleton shape row, fun rest => ?_⟩
      rw [runs, List.splitBy_append_cons rest hcut, ← runs,
        h.runs_eq (List.cons_ne_nil _ _), ← runs, List.map_append]
      rfl

/-! ## Whole runs of steps -/

omit [EquivBEq Key] in
theorem run_push_cons (grouper : Grouper Key State) (row : Row) (steps : List (Step Row)) :
    shape.run grouper (.push row :: steps) =
      (shape.push grouper row).1 :: shape.run (shape.push grouper row).2 steps := rfl

omit [EquivBEq Key] in
theorem run_finish_cons (grouper : Grouper Key State) (steps : List (Step Row)) :
    shape.run grouper (.finish :: steps) =
      (shape.finish grouper).1 :: shape.run {} steps := rfl

private theorem reduceOption_cons_map_some (out : Option Out) (outs : List (Option Out)) :
    (out :: outs).reduceOption.map some = out.toList.map some ++ outs.reduceOption.map some := by
  cases out <;> rfl

-- From a grouper that is filling a run, the steps give back the documents of their batches, the
-- first of which continues that run.  The induction is on the steps, over all runs at once, since
-- a push changes the run that is being filled.
theorem Filling.run_append_finish (h : shape.Filling grouper run) (steps : List (Step Row)) :
    (shape.run grouper (steps ++ [.finish])).reduceOption.map some =
      (((Step.batches steps).modifyHead (run ++ ·)).flatMap shape.runs).map
        shape.runDocument? := by
  induction steps generalizing grouper run with
  | nil =>
    rw [List.nil_append, run_finish_cons, reduceOption_cons_map_some, ← h.finish]
    simp [Step.batches, Shape.run]
  | cons step steps ih =>
    obtain ⟨batch, rest, hbatches⟩ := Step.exists_batches_eq_cons steps
    cases step with
    | push row =>
      obtain ⟨next, hnext, hdocuments⟩ := h.push row
      have hrest := ih hnext
      rw [hbatches, List.modifyHead_cons, List.flatMap_cons, List.map_append] at hrest
      rw [Step.batches, hbatches, List.modifyHead_cons, List.modifyHead_cons, List.flatMap_cons,
        List.map_append, hdocuments, List.append_assoc, ← hrest, List.cons_append, run_push_cons,
        reduceOption_cons_map_some]
    | finish =>
      have hrest := ih (Filling.empty shape)
      rw [hbatches, List.modifyHead_cons, List.nil_append, ← hbatches] at hrest
      rw [Step.batches, List.modifyHead_cons, List.append_nil, List.flatMap_cons, List.map_append,
        h.finish, ← hrest, List.cons_append, run_finish_cons, reduceOption_cons_map_some]

/-- What a new grouper gives back is one document for each piece. -/
theorem emitted_map_some (shape : Shape Row Key State Out) (steps : List (Step Row)) :
    (shape.emitted steps).map some = (shape.cuts steps).map shape.runDocument? := by
  obtain ⟨batch, rest, hbatches⟩ := Step.exists_batches_eq_cons steps
  rw [emitted, (Filling.empty shape).run_append_finish steps, cuts, hbatches]
  rfl

omit [EquivBEq Key] in
-- A finish leaves nothing behind that later steps could depend on.
theorem run_append_finish_cons (grouper : Grouper Key State) (steps later : List (Step Row)) :
    shape.run grouper (steps ++ .finish :: later) =
      shape.run grouper (steps ++ [.finish]) ++ shape.run {} later := by
  induction steps generalizing grouper with
  | nil => rfl
  | cons step steps ih =>
    cases step with
    | push row =>
      rw [List.cons_append, List.cons_append, run_push_cons, run_push_cons, ih, List.cons_append]
    | finish =>
      rw [List.cons_append, List.cons_append, run_finish_cons, run_finish_cons, ih,
        List.cons_append]

/-- Whatever is pushed and finished in whatever order, a grouper gives back one document for each
piece that its rows are cut into, in order and from all rows of the piece.  A second finish gives
nothing back, and after a finish even a row of the same key starts a new document. -/
theorem emitted_documents_of_cuts (shape : Shape Row Key State Out) (steps : List (Step Row)) :
    (shape.emitted steps).map some = (shape.cuts steps).map shape.runDocument? ∧
      (shape.cuts steps).flatten = steps.filterMap Step.row? ∧
      [] ∉ shape.cuts steps ∧
      shape.run {} (steps ++ [.finish, .finish]) = shape.run {} (steps ++ [.finish]) ++ [none] ∧
      ∀ later, shape.emitted (steps ++ .finish :: later) =
        shape.emitted steps ++ shape.emitted later := by
  refine ⟨emitted_map_some shape steps, flatten_cuts shape steps,
    fun hnil => ne_nil_of_mem_cuts hnil rfl, run_append_finish_cons {} steps [.finish],
    fun later => ?_⟩
  rw [emitted, List.append_assoc, List.cons_append, run_append_finish_cons,
    List.reduceOption_append]
  rfl

/-- The rows of one parent are cut at a finish and at a row of another parent. -/
theorem emitted_documents_of_tree_rows :
    ((treeShape .adjacent .adjacent).emitted [
      .push (⟨1, some 10, none⟩ : TreeRow Nat), .push ⟨1, some 11, some 100⟩, .finish, .finish,
      .push ⟨1, some 12, none⟩, .push ⟨2, none, none⟩, .push ⟨1, some 10, none⟩]).map some =
    [some ⟨1, [⟨10, []⟩, ⟨11, [100]⟩]⟩, some ⟨1, [⟨12, []⟩]⟩, some ⟨2, []⟩,
      some ⟨1, [⟨10, []⟩]⟩] :=
  (emitted_documents_of_cuts (treeShape .adjacent .adjacent) _).1.trans (by decide)

end Shape

end Daybook.Grouping
