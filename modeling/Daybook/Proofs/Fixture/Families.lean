import Daybook.Fixture
import Daybook.Proofs.Fixture.Checks
import Daybook.Proofs.Grouping.Children
import Mathlib.Algebra.Ring.Nat

/-!
# Families from fixture rows

Fixture rows are those of families that are joined with their children.  They pass both checks, and
folded again they give these families one by one, each with as many children as were asked for.
-/

namespace Daybook.Fixture

open Grouping

namespace Family

/-! ## Families as rows -/

/-- One row for each child, or one row that names none. -/
def rows (family : Family) : List KeyedRow :=
  (leftJoin some none family.children).map fun child => ⟨family.parent, child⟩

theorem rows_ne_nil (family : Family) : family.rows ≠ [] := by
  rw [rows, ne_eq, List.map_eq_nil_iff]
  exact leftJoin_ne_nil some none family.children

theorem parent_of_mem_rows {family : Family} {row : KeyedRow} (h : row ∈ family.rows) :
    row.parent = family.parent := by
  obtain ⟨child, _, rfl⟩ := List.mem_map.mp h
  rfl

theorem foldl_absorb_rows {family : Family} (h : family.children.IsChain (· ≠ ·)) :
    family.rows.foldl FamilyState.absorb ⟨family.parent, {}⟩ =
      ⟨family.parent, .ofItems id family.children⟩ := by
  obtain ⟨parent, children⟩ := family
  cases children with
  | nil => rfl
  | cons child children =>
    rw [rows, leftJoin, List.map_map, List.foldl_map,
      ← Children.foldl_addAdjacent id (child :: children) h]
    exact List.foldl_hom (fun filled => (⟨parent, filled⟩ : FamilyState)) fun _ _ => rfl

/-- The rows of a family are folded back into it. -/
theorem runDocument?_rows {family : Family} (h : family.children.IsChain (· ≠ ·)) :
    familyShape.runDocument? family.rows = some family := by
  have hopening : ∀ row ∈ family.rows, familyShape.opening row = ⟨family.parent, {}⟩ := by
    intro row hrow
    show (⟨row.parent, {}⟩ : FamilyState) = _
    rw [parent_of_mem_rows hrow]
  rw [Shape.runDocument?_of_opening family.rows_ne_nil hopening]
  show some (FamilyState.family (family.rows.foldl FamilyState.absorb _)) = _
  rw [foldl_absorb_rows h, FamilyState.family, Children.items_ofItems]

/-- Families that differ from their neighbours are folded back one by one. -/
theorem iterates_flatMap_rows {families : List Family}
    (hneighbours : families.IsChain fun a b => a.parent ≠ b.parent)
    (hchildren : ∀ family ∈ families, family.children.IsChain (· ≠ ·)) :
    familyShape.Iterates (families.flatMap rows) families := by
  have hfamilies : familyShape.Iterates (families.flatMap rows) (families.map id) :=
    Shape.iterates_flatMap parent rows_ne_nil (fun _ _ => parent_of_mem_rows)
      (fun family hfamily => runDocument?_rows (hchildren family hfamily)) hneighbours
  rwa [List.map_id] at hfamilies

theorem pairwise_parentKeys {families : List Family}
    (h : (families.map parent).Pairwise (· ≤ ·)) :
    (parentKeys (families.flatMap rows)).Pairwise (· ≤ ·) := by
  rw [parentKeys, List.pairwise_map, List.pairwise_flatMap]
  constructor
  · intro family _
    refine List.pairwise_of_forall_mem_list fun a ha b hb => ?_
    rw [parent_of_mem_rows ha, parent_of_mem_rows hb]
  · refine (List.pairwise_map.mp h).imp fun {front back} hle a ha b hb => ?_
    rwa [parent_of_mem_rows ha, parent_of_mem_rows hb]

/-! ## Numbered families -/

/-- Families with `counts` children each, the parents numbered from `parent` on, and the children of
all of them from `child` on. -/
def numberedFrom (parent child : Nat) : List Nat → List Family
  | [] => []
  | count :: counts =>
    ⟨parent, List.range' child count⟩ :: numberedFrom (parent + 1) (child + count) counts

/-- The numbered families have the rows that the generator writes. -/
theorem flatMap_rows_numberedFrom (parent child : Nat) (counts : List Nat) :
    (numberedFrom parent child counts).flatMap rows = keyedRowsFrom parent child counts := by
  induction counts generalizing parent child with
  | nil => rfl
  | cons count counts ih =>
    rw [numberedFrom, List.flatMap_cons, ih]
    cases count with
    | zero => rfl
    | succ count =>
      show ((List.range' child (count + 1)).map some).map _ ++ _ = _
      rw [List.map_map]
      rfl

theorem map_parent_numberedFrom (parent child : Nat) (counts : List Nat) :
    (numberedFrom parent child counts).map Family.parent = List.range' parent counts.length := by
  induction counts generalizing parent child with
  | nil => rfl
  | cons count counts ih => rw [numberedFrom, List.map_cons, ih, List.length_cons, List.range'_succ]

theorem map_length_numberedFrom (parent child : Nat) (counts : List Nat) :
    (numberedFrom parent child counts).map (fun family => family.children.length) = counts := by
  induction counts generalizing parent child with
  | nil => rfl
  | cons count counts ih => rw [numberedFrom, List.map_cons, ih, List.length_range']

theorem flatMap_children_numberedFrom (parent child : Nat) (counts : List Nat) :
    (numberedFrom parent child counts).flatMap children = List.range' child counts.sum := by
  induction counts generalizing parent child with
  | nil => rfl
  | cons count counts ih =>
    rw [numberedFrom, List.flatMap_cons, ih, List.sum_cons, List.range'_append_1]

-- The numbers of all children differ, and so do those of one family.
theorem nodup_children_of_mem_numberedFrom {parent child : Nat} {counts : List Nat}
    {family : Family} (h : family ∈ numberedFrom parent child counts) :
    family.children.Nodup := by
  have hall : ((numberedFrom parent child counts).flatMap children).Nodup := by
    rw [flatMap_children_numberedFrom]
    exact List.nodup_range'
  exact hall.sublist (List.sublist_flatten_of_mem (List.mem_map_of_mem h))

end Family

/-! ## Fixture rows -/

/-- Fixture rows pass both checks.  Folded into families they give one for each count, numbered from
1 on, with as many children as the count says, and the children of all of them are numbered from 1
on. -/
theorem families_of_keyedRows (counts : List Nat) :
    reappearance? (parentKeys (keyedRows counts)) = none ∧
      descent? ((parentKeys (keyedRows counts)).map Int.ofNat) = none ∧
      ∃ families : List Family,
        familyShape.Iterates (keyedRows counts) families ∧
        families.map Family.parent = List.range' 1 counts.length ∧
        families.map (fun family => family.children.length) = counts ∧
        families.flatMap Family.children = List.range' 1 counts.sum := by
  have hparents := Family.map_parent_numberedFrom 1 1 counts
  have hrows : keyedRows counts = (Family.numberedFrom 1 1 counts).flatMap Family.rows :=
    (Family.flatMap_rows_numberedFrom 1 1 counts).symm
  -- Numbers that never fall pass both checks.
  have hrising : (parentKeys (keyedRows counts)).Pairwise (· ≤ ·) := by
    rw [hrows]
    apply Family.pairwise_parentKeys
    rw [hparents]
    exact List.pairwise_le_range'
  refine ⟨?_, ?_, Family.numberedFrom 1 1 counts, ?_, hparents,
    Family.map_length_numberedFrom 1 1 counts, Family.flatMap_children_numberedFrom 1 1 counts⟩
  · exact (keysChecked_reappearance? _).eq_none_iff.mpr (.of_pairwise hrising)
  · rw [(valuesChecked_descent? _).eq_none_iff, List.pairwise_map]
    exact hrising.imp Int.ofNat_le.mpr
  · rw [hrows]
    refine Family.iterates_flatMap_rows ?_ fun family hfamily =>
      (Family.nodup_children_of_mem_numberedFrom hfamily).isChain
    have hdistinct : ((Family.numberedFrom 1 1 counts).map Family.parent).Nodup := by
      rw [hparents]
      exact List.nodup_range'
    exact (List.pairwise_map.mp hdistinct).isChain

example : familyShape.group (keyedRows [2, 0, 1]) = [⟨1, [1, 2]⟩, ⟨2, []⟩, ⟨3, [3]⟩] := by decide

end Daybook.Fixture
