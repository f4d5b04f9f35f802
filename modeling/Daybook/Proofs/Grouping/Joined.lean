import Daybook.Proofs.Grouping.Iteration

/-!
# Joined rows

A parent is joined with its children row by row, and with a row of NULLs when it has none.  Rows of
parents that follow one another fall into one run for each parent.
-/

namespace Daybook.Grouping

universe u v w x y

/-! ## Left joins -/

section LeftJoin

variable {Child : Type u} {Columns : Type v} (columns : Child → Columns) (absent : Columns)

/-- The child columns of a parent's rows: those of each child, or the absent ones alone. -/
def leftJoin : List Child → List Columns
  | [] => [absent]
  | child :: children => (child :: children).map columns

/-- A parent without children still has one row. -/
theorem leftJoin_ne_nil (children : List Child) : leftJoin columns absent children ≠ [] := by
  cases children <;> simp [leftJoin]

-- What reads a child off its columns and none off the absent ones finds the children again.
theorem filterMap_leftJoin (read? : Columns → Option Child) (habsent : read? absent = none)
    {children : List Child} (hread : ∀ child ∈ children, read? (columns child) = some child) :
    (leftJoin columns absent children).filterMap read? = children := by
  cases children with
  | nil => simp [leftJoin, habsent]
  | cons child children =>
    rw [leftJoin, List.filterMap_map]
    calc (child :: children).filterMap (read? ∘ columns)
        = (child :: children).filterMap some := List.filterMap_congr hread
      _ = child :: children := List.filterMap_some

end LeftJoin

/-! ## Parents in a row -/

namespace Shape

variable {Row : Type u} {Key : Type v} {State : Type w} {Out : Type x}

-- Rows that all open the same document make it from there.
theorem runDocument?_of_opening {shape : Shape Row Key State Out} {rows : List Row} {state : State}
    (hne : rows ≠ []) (hopening : ∀ row ∈ rows, shape.opening row = state) :
    shape.runDocument? rows = some (shape.close (rows.foldl shape.absorb state)) := by
  cases rows with
  | nil => exact absurd rfl hne
  | cons first others =>
    rw [runDocument?, List.head?_cons, Option.map_some, hopening first List.mem_cons_self]

variable [BEq Key] [LawfulBEq Key]

/-- The rows of parents that differ from their neighbours are cut where the next parent begins. -/
theorem runs_flatMap {Parent : Type y} {shape : Shape Row Key State Out} (id : Parent → Key)
    {rows : Parent → List Row} {parents : List Parent} (hne : ∀ parent ∈ parents, rows parent ≠ [])
    (hkey : ∀ parent ∈ parents, ∀ row ∈ rows parent, shape.key row = id parent)
    (hneighbours : parents.IsChain fun a b => id a ≠ id b) :
    shape.runs (parents.flatMap rows) = parents.map rows := by
  rw [runs, List.flatMap_def]
  apply List.splitBy_flatten
  · rintro hnil
    obtain ⟨parent, hparent, hrows⟩ := List.mem_map.mp hnil
    exact hne parent hparent hrows
  · intro run hrun
    obtain ⟨parent, hparent, rfl⟩ := List.mem_map.mp hrun
    refine List.Pairwise.isChain (List.pairwise_of_forall_mem_list fun a ha b hb => ?_)
    rw [sameKey, hkey parent hparent a ha, hkey parent hparent b hb]
    exact BEq.refl (id parent)
  · rw [List.isChain_map]
    refine hneighbours.imp_of_mem_imp fun a b ha hb hab => ⟨hne a ha, hne b hb, ?_⟩
    rw [sameKey, hkey a ha _ (List.getLast_mem _), hkey b hb _ (List.head_mem _)]
    exact beq_eq_false_iff_ne.mpr hab

-- Documents whose rows follow one another come back one by one, if neighbours differ in their keys
-- and the rows of each make it.
theorem group_flatMap {Parent : Type y} {shape : Shape Row Key State Out} (id : Parent → Key)
    {rows : Parent → List Row} {document : Parent → Out} (hne : ∀ parent, rows parent ≠ [])
    (hkey : ∀ parent, ∀ row ∈ rows parent, shape.key row = id parent) {parents : List Parent}
    (hdocument : ∀ parent ∈ parents, shape.runDocument? (rows parent) = some (document parent))
    (hneighbours : parents.IsChain fun a b => id a ≠ id b) :
    shape.group (parents.flatMap rows) = parents.map document := by
  apply group_of_runs
  rw [runs_flatMap id (fun parent _ => hne parent) (fun parent _ => hkey parent) hneighbours,
    List.map_map, List.map_map]
  exact List.map_congr_left hdocument

/-- Documents come back one by one when each comes back from its own rows. -/
theorem iterates_flatMap {Parent : Type y} {shape : Shape Row Key State Out} (id : Parent → Key)
    {rows : Parent → List Row} {document : Parent → Out} (hne : ∀ parent, rows parent ≠ [])
    (hkey : ∀ parent, ∀ row ∈ rows parent, shape.key row = id parent) {parents : List Parent}
    (hdocument : ∀ parent ∈ parents, shape.runDocument? (rows parent) = some (document parent))
    (hneighbours : parents.IsChain fun a b => id a ≠ id b) :
    shape.Iterates (parents.flatMap rows) (parents.map document) :=
  group_flatMap id hne hkey hdocument hneighbours ▸ shape.iterates_group _

end Shape

end Daybook.Grouping
