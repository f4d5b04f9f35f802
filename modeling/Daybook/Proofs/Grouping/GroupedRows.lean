import Daybook.Grouping.Tree
import Daybook.Proofs.Grouping.Contiguity
import Daybook.Proofs.Grouping.Forest
import Daybook.Proofs.Grouping.Recurrence

/-!
# Trees from grouped rows

What a tree becomes is told by the first rows of its children and grandchildren, and on grouped rows
it does not matter by which rule they are found.
-/

namespace Daybook.Grouping

universe u v

variable {Key : Type u} {Item : Type v}

/-! ## Children in the order in which they are first seen

By the rule that looks at all children, each child stands where its key was first seen.  By the rule
that looks at the last one it stands there too, as long as no other key comes between two rows of
it.  So on rows that are grouped the rules agree, on every level of a tree.
-/

/-! ### Keys that a rule foresees -/

namespace Recurrence

/-- The rule recognises the keys where they come back: the rule that looks at the last child needs
them to stand together. -/
def Foresees (recurrence : Recurrence) (keys : List Key) : Prop :=
  match recurrence with
  | .adjacent => Contiguous keys
  | .anywhere => True

/-- Both rules recognise keys that stand together. -/
theorem foresees_of_contiguous (recurrence : Recurrence) {keys : List Key} (h : Contiguous keys) :
    recurrence.Foresees keys := by
  cases recurrence with
  | adjacent => exact h
  | anywhere => exact trivial

theorem Foresees.of_sublist {recurrence : Recurrence} {keys fewer : List Key}
    (h : recurrence.Foresees keys) (hsublist : fewer.Sublist keys) : recurrence.Foresees fewer := by
  cases recurrence with
  | adjacent => exact Contiguous.of_sublist h hsublist
  | anywhere => exact trivial

/-- Both rules tell apart keys that all differ. -/
theorem separates_of_nodup (recurrence : Recurrence) {keys : List Key} (h : keys.Nodup) :
    recurrence.Separates keys := by
  cases recurrence with
  | adjacent => exact List.Pairwise.isChain h
  | anywhere => exact h

-- Of the distinct keys, one that comes back is the last if the rule looks at the last child only.
theorem Foresees.exists_eraseDups_eq [BEq Key] [LawfulBEq Key] {recurrence : Recurrence}
    {keys : List Key} {key : Key} (h : recurrence.Foresees (keys ++ [key])) (hmem : key ∈ keys) :
    ∃ front back, keys.eraseDups = front ++ key :: back ∧ key ∉ front ∧ key ∉ back ∧
      (recurrence = .adjacent → back = []) := by
  obtain ⟨front, back, hkeys⟩ := List.append_of_mem (List.mem_eraseDups.mpr hmem)
  have hnodup := nodup_eraseDups keys
  rw [hkeys, List.nodup_append, List.nodup_cons] at hnodup
  obtain ⟨-, ⟨hback, -⟩, hfront⟩ := hnodup
  refine ⟨front, back, hkeys, fun hin => hfront key hin key List.mem_cons_self rfl, hback, ?_⟩
  rintro rfl
  cases back with
  | nil => rfl
  | cons other back =>
    have hlater : [key, other].Sublist keys := by
      refine List.Sublist.trans ?_ (eraseDups_sublist keys)
      rw [hkeys]
      exact List.Sublist.trans (List.prefix_append [key, other] back).sublist
        (List.sublist_append_right front _)
    have hsame : other = key := h key other (hlater.append_right [key])
    exact absurd (hsame ▸ List.mem_cons_self) hback

end Recurrence

/-! ### Children by first keys -/

namespace Children

variable [BEq Key]

def firstSeen (keys : List Key) (item : Key → Item) : Children Key Item where
  entries := keys.eraseDups.map fun key => (key, item key)

variable [LawfulBEq Key] {recurrence : Recurrence} {front back : List (Key × Item)} {key : Key}
  {keys : List Key} {fresh : Item} {item : Key → Item}

theorem place_of_first (h : key ∉ front.map Prod.fst) (hback : recurrence = .adjacent → back = [])
    (found fresh : Item) :
    place recurrence ⟨front ++ (key, found) :: back⟩ (some key) fresh =
      (some ⟨front.length, false⟩, ⟨front ++ (key, found) :: back⟩) := by
  apply place_of_finds
  refine ⟨front.map Prod.fst, key, back.map Prod.fst, ?_, List.length_map _, BEq.refl key, ?_⟩
  · rw [keys, List.map_append, List.map_cons]
  · cases recurrence with
    | adjacent =>
      rw [hback rfl]
      rfl
    | anywhere => exact fun other hother hsame => h (eq_of_beq hsame ▸ hother)

-- A row puts the change into the child of its key, which it brings if there is none.
theorem placeAnd_firstSeen (h : recurrence.Foresees (keys ++ [key])) {next : Key → Item}
    {change : Item → Item} (hfresh : key ∉ keys → item key = fresh)
    (hnext : next key = change (item key))
    (hothers : ∀ other, other ≠ key → next other = item other) :
    (firstSeen keys item).placeAnd recurrence (some key) fresh change =
      firstSeen (keys ++ [key]) next := by
  have hkept {others : List Key} (hnew : key ∉ others) :
      (others.map fun other => (other, next other)) = others.map fun other => (other, item other) :=
    List.map_congr_left fun other hother => by
      rw [hothers other fun heq => hnew (heq ▸ hother)]
  -- A known key has one place, at which the child is changed; a new one comes last.
  by_cases hmem : key ∈ keys
  · obtain ⟨front, back, hkeys, hfront, hback, hlast⟩ := h.exists_eraseDups_eq hmem
    have hfirst : key ∉ (front.map fun other => (other, item other)).map Prod.fst := by
      simpa using hfront
    have hend : recurrence = .adjacent → (back.map fun other => (other, item other)) = [] :=
      fun hrule => by rw [hlast hrule, List.map_nil]
    rw [firstSeen, firstSeen, eraseDups_concat_of_mem hmem, hkeys, List.map_append, List.map_cons,
      List.map_append, List.map_cons, hkept hfront, hkept hback, hnext, placeAnd,
      place_of_first hfirst hend]
    exact modify_length change
  · have hnew : recurrence.Separates
        ((keys.eraseDups.map fun other => (other, item other)).map Prod.fst ++ [key]) := by
      have hnodup := nodup_eraseDups (keys ++ [key])
      rw [eraseDups_concat_of_notMem hmem] at hnodup
      simpa [Function.comp_def] using recurrence.separates_of_nodup hnodup
    have hunseen : key ∉ keys.eraseDups := mt List.mem_eraseDups.mp hmem
    rw [firstSeen, firstSeen, eraseDups_concat_of_notMem hmem, List.map_append, List.map_singleton,
      hkept hunseen, hnext, hfresh hmem]
    exact placeAnd_of_new hnew change

omit [LawfulBEq Key] in
theorem placeAnd_id (children : Children Key Item) (key : Option Key) (fresh : Item) :
    children.placeAnd recurrence key fresh id = (children.place recurrence key fresh).2 := by
  rw [placeAnd]
  split
  · rename_i placed hplaced
    rw [hplaced]
    exact congrArg Children.mk (List.modify_id _ _)
  · rename_i hplaced
    rw [hplaced]

end Children


variable {Id : Type}

/-! ## Trees

By the rule that looks at all of them, the first rows of children and grandchildren alone make the
tree.  Where the rows of each child stand together, and within a child those of each grandchild,
both rules make the same trees on both levels.  Rows that name no child or no grandchild may stand
anywhere.
-/

def childIds (rows : List (TreeRow Id)) : List Id := rows.filterMap TreeRow.child

section Levels

variable [BEq Id]

def grandchildIds (rows : List (TreeRow Id)) (id : Id) : List Id :=
  (rows.filter fun row => row.child == some id).filterMap TreeRow.grandchild

/-- The rows of each child stand together among those that name a child, and the rows of each of
its grandchildren among its own that name a grandchild. -/
structure Grouped (rows : List (TreeRow Id)) : Prop where
  children : Contiguous (childIds rows)
  grandchildren : ∀ id ∈ childIds rows, Contiguous (grandchildIds rows id)

/-- The children that some rows name, each with the grandchildren that its rows name, all in the
order in which they are first named. -/
def Tree.firstSeen (parent : Id) (rows : List (TreeRow Id)) : Tree Id where
  parent := parent
  branches := (childIds rows).eraseDups.map fun id => ⟨id, (grandchildIds rows id).eraseDups⟩

instance [DecidableEq Id] (rows : List (TreeRow Id)) : Decidable (Grouped rows) :=
  decidable_of_iff (Contiguous (childIds rows) ∧
      ∀ id ∈ childIds rows, Contiguous (grandchildIds rows id))
    ⟨fun ⟨children, grandchildren⟩ => ⟨children, grandchildren⟩,
      fun ⟨children, grandchildren⟩ => ⟨children, grandchildren⟩⟩

def TreeState.firstSeen (parent : Id) (rows : List (TreeRow Id)) : TreeState Id where
  parent := parent
  children := .firstSeen (childIds rows) fun id => .firstSeen (grandchildIds rows id) fun _ => ()

/-- The rows of each parent, as long as no other parent comes between. -/
def parentRuns (rows : List (TreeRow Id)) : List (List (TreeRow Id)) :=
  rows.splitBy fun a b => a.parent == b.parent

theorem TreeState.tree_firstSeen (parent : Id) (rows : List (TreeRow Id)) :
    (TreeState.firstSeen parent rows).tree = Tree.firstSeen parent rows := by
  simp [TreeState.firstSeen, TreeState.tree, Tree.firstSeen, Children.firstSeen, Children.keys,
    Function.comp_def]

end Levels

/-! ### One more row -/

section Steps

variable [BEq Id] [LawfulBEq Id] {rows : List (TreeRow Id)} {row : TreeRow Id} {id : Id}

omit [BEq Id] [LawfulBEq Id] in
theorem childIds_concat (rows : List (TreeRow Id)) (row : TreeRow Id) :
    childIds (rows ++ [row]) = childIds rows ++ row.child.toList := by
  rw [childIds, List.filterMap_append, List.filterMap_eq_flatMap_toList _ [row],
    List.flatMap_singleton, childIds]

theorem grandchildIds_concat_of_ne (h : row.child ≠ some id) :
    grandchildIds (rows ++ [row]) id = grandchildIds rows id := by
  rw [grandchildIds, List.filter_append, List.filter_cons_of_neg (by simpa using h),
    List.filter_nil, List.append_nil, grandchildIds]

-- A row of this child adds the grandchild that it names, if any.
theorem grandchildIds_concat_of_eq (h : row.child = some id) :
    grandchildIds (rows ++ [row]) id = grandchildIds rows id ++ row.grandchild.toList := by
  rw [grandchildIds, List.filter_append, List.filter_cons_of_pos (by simpa using h),
    List.filter_nil, List.filterMap_append, List.filterMap_eq_flatMap_toList _ [row],
    List.flatMap_singleton, grandchildIds]

theorem grandchildIds_of_notMem (h : id ∉ childIds rows) : grandchildIds rows id = [] := by
  rw [grandchildIds, List.filter_eq_nil_iff.mpr, List.filterMap_nil]
  intro row hrow hchild
  exact h (List.mem_filterMap.mpr ⟨row, hrow, by simpa using hchild⟩)

variable {child grandchild : Recurrence}

/-- One row more of a child adds its grandchild unless it is there. -/
theorem place_grandchild (ids : List Id) (named : Option Id)
    (h : grandchild.Foresees (ids ++ named.toList)) :
    ((Children.firstSeen ids fun _ => ()).place grandchild named ()).2 =
      .firstSeen (ids ++ named.toList) fun _ => () := by
  cases named with
  | none => rw [Children.place_none, Option.toList_none, List.append_nil]
  | some id =>
    rw [← Children.placeAnd_id]
    exact Children.placeAnd_firstSeen h (fun _ => rfl) rfl fun _ _ => rfl

-- A row adds its grandchild to the child that it names, and no other child changes.
theorem absorb_firstSeen (parent : Id) (hchild : child.Foresees (childIds (rows ++ [row])))
    (hgrandchild : ∀ id, grandchild.Foresees (grandchildIds (rows ++ [row]) id)) :
    (TreeState.firstSeen parent rows).absorb child grandchild row =
      .firstSeen parent (rows ++ [row]) := by
  rw [childIds_concat] at hchild
  rw [TreeState.absorb, TreeState.firstSeen, TreeState.firstSeen, childIds_concat]
  congr 1
  cases hnamed : row.child with
  | none =>
    have hsame (id : Id) : grandchildIds (rows ++ [row]) id = grandchildIds rows id :=
      grandchildIds_concat_of_ne (by rw [hnamed]; exact nofun)
    simp only [Children.placeAnd_none, Option.toList_none, List.append_nil, hsame]
  | some id =>
    -- The child that is named takes the grandchild; the ids of the others stay as they were.
    have hadded : grandchildIds (rows ++ [row]) id =
        grandchildIds rows id ++ row.grandchild.toList := grandchildIds_concat_of_eq hnamed
    rw [hnamed] at hchild
    apply Children.placeAnd_firstSeen hchild
    · intro hnew
      rw [grandchildIds_of_notMem hnew]
      rfl
    · have hforeseen := hgrandchild id
      rw [hadded] at hforeseen ⊢
      exact (place_grandchild _ _ hforeseen).symm
    · intro other hother
      rw [grandchildIds_concat_of_ne]
      rw [hnamed]
      exact fun heq => hother (Option.some.inj heq).symm

/-! ### All rows of a parent -/

-- The induction is from the end, since the last row is the one that the rules decide on last.
theorem foldl_absorb_firstSeen (parent : Id) (rows : List (TreeRow Id))
    (hchild : child.Foresees (childIds rows))
    (hgrandchild : ∀ id, grandchild.Foresees (grandchildIds rows id)) :
    rows.foldl (TreeState.absorb child grandchild) { parent } = .firstSeen parent rows := by
  induction rows using List.reverseRecOn with
  | nil => rfl
  | append_singleton rows row ih =>
    have hfewer : rows.Sublist (rows ++ [row]) := List.sublist_append_left rows [row]
    have hrows : rows.foldl (TreeState.absorb child grandchild) { parent } =
        .firstSeen parent rows :=
      ih (hchild.of_sublist (hfewer.filterMap _)) fun id =>
        (hgrandchild id).of_sublist ((hfewer.filter _).filterMap _)
    rw [List.foldl_append, hrows, List.foldl_cons, List.foldl_nil,
      absorb_firstSeen parent hchild hgrandchild]

/-- A run makes the tree of what its rows name. -/
theorem runDocument?_firstSeen (run : List (TreeRow Id)) (hchild : child.Foresees (childIds run))
    (hgrandchild : ∀ id, grandchild.Foresees (grandchildIds run id)) :
    (treeShape child grandchild).runDocument? run =
      run.head?.map fun first => .firstSeen first.parent run := by
  refine Option.map_congr fun first _ => ?_
  show (run.foldl (TreeState.absorb child grandchild) { parent := first.parent }).tree = _
  rw [foldl_absorb_firstSeen first.parent run hchild hgrandchild, TreeState.tree_firstSeen]

/-- In grouped rows the grandchildren of every child stand together. -/
theorem Grouped.contiguous_grandchildIds {run : List (TreeRow Id)} (h : Grouped run) (id : Id) :
    Contiguous (grandchildIds run id) := by
  by_cases hmem : id ∈ childIds run
  · exact h.grandchildren id hmem
  · rw [grandchildIds_of_notMem hmem]
    exact contiguous_nil

/-- By the rule that looks at all children and grandchildren, each parent's rows make a tree of
distinct children with distinct grandchildren, in the order in which they are first named.  By any
other choice of rules they make the same trees, if the rows of each parent are grouped. -/
theorem trees_of_grouped_rows (rows : List (TreeRow Id)) :
    ∃ trees : List (Tree Id),
      trees.map some =
        (parentRuns rows).map (fun run => run.head?.map fun first =>
          Tree.firstSeen first.parent run) ∧
      (treeShape .anywhere .anywhere).Iterates rows trees ∧
      ((∀ run ∈ parentRuns rows, Grouped run) →
        ∀ child grandchild, (treeShape child grandchild).Iterates rows trees) := by
  have hanywhere : ((treeShape .anywhere .anywhere).group rows).map some =
      (parentRuns rows).map fun run => run.head?.map fun first =>
        Tree.firstSeen first.parent run := by
    rw [Shape.group_map_some]
    exact List.map_congr_left fun run _ => runDocument?_firstSeen run trivial fun _ => trivial
  refine ⟨_, hanywhere, Shape.iterates_group _ rows, fun hgrouped child grandchild => ?_⟩
  have hsame : (treeShape child grandchild).group rows =
      (treeShape .anywhere .anywhere).group rows := by
    apply Shape.group_of_runs
    rw [hanywhere]
    refine List.map_congr_left fun run hrun => ?_
    have hrows := hgrouped run hrun
    exact runDocument?_firstSeen run (child.foresees_of_contiguous hrows.children) fun id =>
      grandchild.foresees_of_contiguous (hrows.contiguous_grandchildIds id)
  rw [← hsame]
  exact Shape.iterates_group _ rows

end Steps

/-- Rows without a child or a grandchild may stand between those of one child, and a parent that
comes back starts again. -/
theorem trees_of_sparse_grouped_rows :
    let rows : List (TreeRow Nat) := [
      ⟨1, some 5, some 7⟩, ⟨1, none, some 3⟩, ⟨1, some 5, none⟩, ⟨1, some 5, some 7⟩,
      ⟨1, some 6, some 7⟩, ⟨1, none, none⟩, ⟨2, none, none⟩, ⟨1, some 6, none⟩]
    (∀ run ∈ parentRuns rows, Grouped run) ∧
      ∀ child grandchild, (treeShape child grandchild).Iterates rows
        [⟨1, [⟨5, [7]⟩, ⟨6, [7]⟩]⟩, ⟨2, []⟩, ⟨1, [⟨6, []⟩]⟩] := by
  intro rows
  have hgrouped : ∀ run ∈ parentRuns rows, Grouped run := by decide
  obtain ⟨trees, htrees, -, hsame⟩ := trees_of_grouped_rows rows
  have heq : trees = [⟨1, [⟨5, [7]⟩, ⟨6, [7]⟩]⟩, ⟨2, []⟩, ⟨1, [⟨6, []⟩]⟩] :=
    List.map_injective_iff.mpr (fun _ _ => Option.some.inj) (htrees.trans (by decide))
  exact ⟨hgrouped, heq ▸ hsame hgrouped⟩

end Daybook.Grouping
