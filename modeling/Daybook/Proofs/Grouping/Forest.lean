import Daybook.Grouping.Tree
import Daybook.Proofs.Grouping.Joined
import Daybook.Proofs.Grouping.Recurrence

/-!
# Forests from joined rows

Trees that are joined level by level and folded again come back as they were.  A branch without
grandchildren and a tree without branches have a row of their own, which adds nothing below them.
-/

namespace Daybook.Grouping

variable {Id : Type}

/-! ## Trees as rows -/

def Branch.rows (parent : Id) (branch : Branch Id) : List (TreeRow Id) :=
  (leftJoin some none branch.grandchildren).map fun grandchild =>
    ⟨parent, some branch.child, grandchild⟩

/-- The rows of each branch, or one row that has neither child nor grandchild. -/
def Tree.rows (tree : Tree Id) : List (TreeRow Id) :=
  (leftJoin (Branch.rows tree.parent) [⟨tree.parent, none, none⟩] tree.branches).flatten

theorem Branch.rows_ne_nil (parent : Id) (branch : Branch Id) : branch.rows parent ≠ [] := by
  rw [rows, ne_eq, List.map_eq_nil_iff]
  exact leftJoin_ne_nil some none branch.grandchildren

namespace Tree

theorem rows_ne_nil (tree : Tree Id) : tree.rows ≠ [] := by
  rw [rows]
  cases tree.branches with
  | nil => simp [leftJoin]
  | cons branch branches => simp [leftJoin, Branch.rows_ne_nil]

theorem parent_of_mem_rows {tree : Tree Id} {row : TreeRow Id} (h : row ∈ tree.rows) :
    row.parent = tree.parent := by
  obtain ⟨block, hblock, hrow⟩ := List.mem_flatten.mp h
  cases hbranches : tree.branches with
  | nil =>
    rw [hbranches, leftJoin, List.mem_singleton] at hblock
    rw [hblock, List.mem_singleton] at hrow
    rw [hrow]
  | cons branch branches =>
    rw [hbranches, leftJoin] at hblock
    obtain ⟨other, _, rfl⟩ := List.mem_map.mp hblock
    obtain ⟨_, _, rfl⟩ := List.mem_map.mp hrow
    rfl

/-- The rules of recurrence can tell apart the branches of the tree and the grandchildren of each
branch. -/
structure Separated (child grandchild : Recurrence) (tree : Tree Id) : Prop where
  branches : child.Separates (tree.branches.map Branch.child)
  grandchildren : ∀ branch ∈ tree.branches, grandchild.Separates branch.grandchildren

instance [DecidableEq Id] (child grandchild : Recurrence) (tree : Tree Id) :
    Decidable (tree.Separated child grandchild) :=
  decidable_of_iff
    (child.Separates (tree.branches.map Branch.child) ∧
      ∀ branch ∈ tree.branches, grandchild.Separates branch.grandchildren)
    ⟨fun ⟨hbranches, hgrandchildren⟩ => ⟨hbranches, hgrandchildren⟩,
      fun ⟨hbranches, hgrandchildren⟩ => ⟨hbranches, hgrandchildren⟩⟩

end Tree

/-! ## Filling a tree -/

def Branch.entry (branch : Branch Id) : Id × Children Id Unit :=
  (branch.child, ⟨branch.grandchildren.map fun id => (id, ())⟩)

variable [BEq Id] [LawfulBEq Id] {child grandchild : Recurrence}

theorem foldl_place_leftJoin {ids : List Id} (h : grandchild.Separates ids) :
    (leftJoin some none ids).foldl
        (fun (children : Children Id Unit) id => (children.place grandchild id ()).2) {} =
      ⟨ids.map fun id => (id, ())⟩ := by
  cases ids with
  | nil => exact congrArg Prod.snd (Children.place_none {})
  | cons id ids =>
    rw [leftJoin, List.foldl_map]
    exact Children.foldl_place (id :: ids) [] h

-- The rows of a branch put its entry at the end of those that are there, and change none of them.
theorem Branch.foldl_absorb_rows {branch : Branch Id} {front : List (Id × Children Id Unit)}
    (parent : Id) (hbranch : child.Separates (front.map Prod.fst ++ [branch.child]))
    (hgrandchildren : grandchild.Separates branch.grandchildren) :
    (branch.rows parent).foldl (TreeState.absorb child grandchild) ⟨parent, ⟨front⟩⟩ =
      ⟨parent, ⟨front ++ [branch.entry]⟩⟩ := by
  have hentry := Children.foldl_placeAnd_of_new
    (fun id (children : Children Id Unit) => (children.place grandchild id ()).2) hbranch {}
    (leftJoin_ne_nil some none branch.grandchildren)
  rw [foldl_place_leftJoin hgrandchildren] at hentry
  rw [Branch.rows, List.foldl_map, Branch.entry, ← hentry]
  exact List.foldl_hom (fun children => (⟨parent, children⟩ : TreeState Id)) fun _ _ => rfl

-- The induction is on the branches that are still to come, over all that are there already.
theorem foldl_absorb_branches (parent : Id) (branches : List (Branch Id))
    (front : List (Id × Children Id Unit))
    (hbranches : child.Separates (front.map Prod.fst ++ branches.map Branch.child))
    (hgrandchildren : ∀ branch ∈ branches, grandchild.Separates branch.grandchildren) :
    (branches.map (Branch.rows parent)).flatten.foldl (TreeState.absorb child grandchild)
        ⟨parent, ⟨front⟩⟩ =
      ⟨parent, ⟨front ++ branches.map Branch.entry⟩⟩ := by
  induction branches generalizing front with
  | nil => simp
  | cons branch branches ih =>
    have hrest : child.Separates
        ((front ++ [branch.entry]).map Prod.fst ++ branches.map Branch.child) := by
      simpa [Branch.entry] using hbranches
    have hfirst : child.Separates (front.map Prod.fst ++ [branch.child]) :=
      hbranches.of_append_cons
    rw [List.map_cons, List.flatten_cons, List.foldl_append,
      Branch.foldl_absorb_rows parent hfirst (hgrandchildren branch List.mem_cons_self),
      ih _ hrest fun other hother => hgrandchildren other (List.mem_cons_of_mem _ hother)]
    simp

namespace Tree

theorem foldl_absorb_rows {tree : Tree Id} (h : tree.Separated child grandchild) :
    tree.rows.foldl (TreeState.absorb child grandchild) ⟨tree.parent, {}⟩ =
      ⟨tree.parent, ⟨tree.branches.map Branch.entry⟩⟩ := by
  obtain ⟨parent, branches⟩ := tree
  cases branches with
  | nil =>
    show (⟨parent, Children.placeAnd child {} none {} _⟩ : TreeState Id) = _
    rw [Children.placeAnd_none]
    rfl
  | cons branch branches =>
    rw [rows, leftJoin]
    exact foldl_absorb_branches parent (branch :: branches) [] h.branches h.grandchildren

omit [BEq Id] [LawfulBEq Id] in
theorem tree_of_entries (tree : Tree Id) :
    TreeState.tree ⟨tree.parent, ⟨tree.branches.map Branch.entry⟩⟩ = tree := by
  have hbranch : ∀ branch : Branch Id,
      (⟨branch.entry.1, branch.entry.2.keys⟩ : Branch Id) = branch := by
    intro branch
    simp [Branch.entry, Children.keys, Function.comp_def]
  rw [TreeState.tree, List.map_map]
  simp only [Function.comp_def, hbranch, List.map_id']

/-- The rows of a tree are folded back into it. -/
theorem runDocument?_rows {tree : Tree Id} (h : tree.Separated child grandchild) :
    (treeShape child grandchild).runDocument? tree.rows = some tree := by
  have hopening : ∀ row ∈ tree.rows,
      (treeShape child grandchild).opening row = ⟨tree.parent, {}⟩ := by
    intro row hrow
    show (⟨row.parent, {}⟩ : TreeState Id) = _
    rw [parent_of_mem_rows hrow]
  rw [Shape.runDocument?_of_opening tree.rows_ne_nil hopening]
  show some (TreeState.tree (tree.rows.foldl (TreeState.absorb child grandchild) _)) = _
  rw [foldl_absorb_rows h, tree_of_entries]

end Tree

/-- A forest that is joined and folded again comes back tree by tree, by either rule of recurrence
on each level, as long as neighbouring trees differ in their ids and the rules can tell apart what
is on their level.  The ids of one tree say nothing about those of another. -/
theorem forest_of_joined_rows (child grandchild : Recurrence) {forest : List (Tree Id)}
    (hneighbours : forest.IsChain fun a b => a.parent ≠ b.parent)
    (hseparated : ∀ tree ∈ forest, tree.Separated child grandchild) :
    (treeShape child grandchild).Iterates (forest.flatMap Tree.rows) forest := by
  have hforest : (treeShape child grandchild).Iterates (forest.flatMap Tree.rows)
      (forest.map id) :=
    Shape.iterates_flatMap Tree.parent Tree.rows_ne_nil (fun _ _ => Tree.parent_of_mem_rows)
      (fun tree htree => Tree.runDocument?_rows (hseparated tree htree)) hneighbours
  rwa [List.map_id] at hforest

/-- A child may come back after another one where neighbours are compared, ids may be zero, and
nothing is made up for a branch or a tree that is empty. -/
theorem forest_of_joined_sparse_trees :
    let forest : List (Tree Nat) := [
      ⟨1, [⟨0, [0, 7]⟩, ⟨5, []⟩, ⟨0, [7, 0]⟩]⟩, ⟨0, []⟩, ⟨1, [⟨0, []⟩]⟩, ⟨2, [⟨5, [0]⟩]⟩]
    forest.IsChain (fun a b => a.parent ≠ b.parent) ∧
      (∀ tree ∈ forest, tree.Separated .adjacent .anywhere) ∧
      forest.map (fun tree => tree.rows.length) = [5, 1, 1, 1] ∧
      (treeShape .adjacent .anywhere).Iterates (forest.flatMap Tree.rows) forest :=
  ⟨by decide, by decide, by decide,
    forest_of_joined_rows .adjacent .anywhere (by decide) (by decide)⟩

end Daybook.Grouping
