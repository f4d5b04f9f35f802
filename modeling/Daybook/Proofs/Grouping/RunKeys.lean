import Daybook.Proofs.Grouping.Contiguity
import Daybook.Proofs.Grouping.Iteration

/-!
# Keys of runs

A list of rows has as many documents as runs.  They have keys of their own exactly when the rows of
each key stand together, and then there are as many of them as there are keys.
-/

namespace Daybook.Grouping

universe u v w x

variable {Row : Type u} {Key : Type v} {State : Type w} {Out : Type x}

/-! ## A run before other rows -/

-- One key ahead of rows that start with another: they stand together if it does not come back.
theorem Contiguous.append_iff {front rest : List Key} {key : Key} (hne : front ≠ [])
    (hfront : ∀ k ∈ front, k = key) (hhead : ∀ k ∈ rest.head?, k ≠ key) :
    Contiguous (front ++ rest) ↔ key ∉ rest ∧ Contiguous rest := by
  induction front with
  | nil => exact absurd rfl hne
  | cons first others ih =>
    obtain ⟨rfl, hothers⟩ := List.forall_mem_cons.mp hfront
    rw [List.cons_append, contiguous_cons_iff]
    cases others with
    | nil =>
      rw [List.nil_append, and_comm]
      exact and_congr_left fun _ =>
        ⟨fun h hmem => hhead first (h hmem) rfl, fun h hmem => absurd hmem h⟩
    | cons next others =>
      obtain rfl : next = first := hothers next List.mem_cons_self
      rw [ih (List.cons_ne_nil _ _) hothers]
      exact and_iff_left fun _ => rfl

namespace Shape

variable [BEq Key]

/-! ## Keys run by run -/

def runKeys (shape : Shape Row Key State Out) (rows : List Row) : List Key :=
  (shape.runsByFirst rows).filterMap fun run => run.head?.map shape.key

theorem runKeys_nil (shape : Shape Row Key State Out) : shape.runKeys [] = [] := by
  rw [runKeys, runsByFirst, List.filterMap_nil]

theorem runKeys_of_last {shape : Shape Row Key State Out} {first : Row} {rows : List Row}
    (h : ∀ row ∈ rows, shape.sameKey first row) :
    shape.runKeys (first :: rows) = [shape.key first] := by
  rw [runKeys, runsByFirst_of_last h]
  rfl

/-- A run has the key of its first row, and the next begins where the key changes. -/
theorem runKeys_of_more {shape : Shape Row Key State Out} {first other : Row}
    {rows later : List Row} (h : ∀ row ∈ rows, shape.sameKey first row)
    (hother : ¬shape.sameKey first other) :
    shape.runKeys (first :: (rows ++ other :: later)) =
      shape.key first :: shape.runKeys (other :: later) := by
  rw [runKeys, runsByFirst_of_more h hother]
  rfl

variable [LawfulBEq Key]

theorem sameKey_iff {shape : Shape Row Key State Out} {a b : Row} :
    shape.sameKey a b ↔ shape.key b = shape.key a := by
  rw [sameKey, beq_iff_eq, eq_comm]

theorem mem_map_key_iff {shape : Shape Row Key State Out} {first : Row} {rows : List Row}
    (h : ∀ row ∈ rows, shape.sameKey first row) {k : Key} :
    k ∈ (first :: rows).map shape.key ↔ k = shape.key first := by
  rw [List.map_cons, List.mem_cons, or_iff_left_of_imp]
  intro hk
  obtain ⟨row, hrow, rfl⟩ := List.mem_map.mp hk
  exact sameKey_iff.mp (h row hrow)

/-- The runs have the keys of the rows. -/
theorem mem_runKeys_iff (shape : Shape Row Key State Out) (rows : List Row) (k : Key) :
    k ∈ shape.runKeys rows ↔ k ∈ rows.map shape.key := by
  induction rows using shape.runInduction with
  | nil => rw [runKeys_nil, List.map_nil]
  | last first rows hall => rw [runKeys_of_last hall, List.mem_singleton, mem_map_key_iff hall]
  | more first same other later hsame hother ih =>
    rw [runKeys_of_more hsame hother, List.mem_cons, ← List.cons_append, List.map_append,
      List.mem_append, mem_map_key_iff hsame]
    exact or_congr_right ih

/-- Two runs have the same key just when some rows of the key stand apart. -/
theorem nodup_runKeys_iff (shape : Shape Row Key State Out) (rows : List Row) :
    (shape.runKeys rows).Nodup ↔ Contiguous (rows.map shape.key) := by
  induction rows using shape.runInduction with
  | nil =>
    rw [runKeys_nil]
    exact iff_of_true List.nodup_nil contiguous_nil
  | last first rows hall =>
    rw [runKeys_of_last hall]
    exact iff_of_true (List.nodup_singleton _)
      (Contiguous.of_forall_eq fun k hk => (mem_map_key_iff hall).mp hk)
  | more first same other later hsame hother ih =>
    have hne : (first :: same).map shape.key ≠ [] := List.cons_ne_nil _ _
    have hhead : ∀ k ∈ ((other :: later).map shape.key).head?, k ≠ shape.key first := by
      rintro _ ⟨⟩
      exact fun heq => hother (sameKey_iff.mpr heq)
    rw [runKeys_of_more hsame hother, List.nodup_cons, mem_runKeys_iff, ← List.cons_append,
      List.map_append,
      Contiguous.append_iff hne (fun k hk => (mem_map_key_iff hsame).mp hk) hhead]
    exact and_congr_right fun _ => ih

/-! ## Documents run by run -/

/-- The document is made of rows that all have this key. -/
def Makes (shape : Shape Row Key State Out) (key : Key) (document : Out) : Prop :=
  ∃ first others, (∀ row ∈ first :: others, shape.key row = key) ∧
    shape.document first others = document

omit [LawfulBEq Key] in
theorem group_of_last {shape : Shape Row Key State Out} {first : Row} {rows : List Row}
    (h : ∀ row ∈ rows, shape.sameKey first row) :
    shape.group (first :: rows) = [shape.document first rows] := by
  rw [group_cons, groupFrom_current, List.takeWhile_eq_self_iff.mpr h,
    List.dropWhile_eq_nil_iff.mpr h]
  rfl

omit [LawfulBEq Key] in
theorem group_of_more {shape : Shape Row Key State Out} {first other : Row} {rows later : List Row}
    (h : ∀ row ∈ rows, shape.sameKey first row) (hother : ¬shape.sameKey first other) :
    shape.group (first :: (rows ++ other :: later)) =
      shape.document first rows :: shape.group (other :: later) := by
  rw [group_cons, groupFrom_current, List.takeWhile_append_of_pos h,
    List.dropWhile_append_of_pos h, List.takeWhile_cons_of_neg hother,
    List.dropWhile_cons_of_neg hother, List.append_nil]
  rfl

/-- The document of a run is made for the key of its first row. -/
theorem makes_of_run {shape : Shape Row Key State Out} {first : Row} {rows : List Row}
    (h : ∀ row ∈ rows, shape.sameKey first row) :
    shape.Makes (shape.key first) (shape.document first rows) :=
  ⟨first, rows, List.forall_mem_cons.mpr ⟨rfl, fun row hrow => sameKey_iff.mp (h row hrow)⟩, rfl⟩

-- Each document is made of the rows of one run.
theorem forall₂_makes_group (shape : Shape Row Key State Out) (rows : List Row) :
    List.Forall₂ shape.Makes (shape.runKeys rows) (shape.group rows) := by
  induction rows using shape.runInduction with
  | nil =>
    rw [runKeys_nil]
    exact .nil
  | last first rows hall =>
    rw [runKeys_of_last hall, group_of_last hall]
    exact .cons (makes_of_run hall) .nil
  | more first same other later hsame hother ih =>
    rw [runKeys_of_more hsame hother, group_of_more hsame hother]
    exact .cons (makes_of_run hsame) ih

/-- There are as many documents as keys just when the rows of each key stand together. -/
theorem length_group_eq_iff (shape : Shape Row Key State Out) (rows : List Row) :
    (shape.group rows).length = (rows.map shape.key).eraseDups.length ↔
      Contiguous (rows.map shape.key) := by
  rw [← (shape.forall₂_makes_group rows).length_eq, ← nodup_runKeys_iff,
    nodup_iff_length_eq_eraseDups (shape.mem_runKeys_iff rows)]

/-- Where documents tell their keys, they tell those of the runs. -/
theorem map_group {shape : Shape Row Key State Out} {keyOf : Out → Key}
    (h : ∀ key document, shape.Makes key document → keyOf document = key) (rows : List Row) :
    (shape.group rows).map keyOf = shape.runKeys rows := by
  have hkeys := (shape.forall₂_makes_group rows).imp h
  rw [← List.forall₂_eq_eq_eq, List.forall₂_map_left_iff]
  exact hkeys.flip

end Shape

/-! ## Trees -/

section Trees

variable {Id : Type} [BEq Id] {child grandchild : Recurrence}

theorem parent_foldl_absorb (rows : List (TreeRow Id)) (state : TreeState Id) :
    (rows.foldl (TreeState.absorb child grandchild) state).parent = state.parent := by
  induction rows generalizing state with
  | nil => rfl
  | cons row rows ih => exact ih (state.absorb child grandchild row)

/-- A tree tells its key by its parent. -/
theorem parent_of_makes {key : Id} {tree : Tree Id}
    (h : (treeShape child grandchild).Makes key tree) : tree.parent = key := by
  obtain ⟨first, others, hkeys, rfl⟩ := h
  rw [← hkeys first List.mem_cons_self]
  exact parent_foldl_absorb others _

end Trees

end Daybook.Grouping
