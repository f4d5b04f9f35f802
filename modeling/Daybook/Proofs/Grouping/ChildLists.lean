import Daybook.Grouping.Children
import Daybook.Proofs.Grouping.Recurrence

/-!
# Lists of children that stay in step

However visits by the two rules are mixed, a key and an item are added together or not at all.  So
the two lists hold what children hold that stand with their keys, and the item that a visit is given
is the one under the key that was found.
-/

namespace Daybook.Grouping

universe u v w

variable {Key : Type u} {Item : Type v} {Supply : Type w}

namespace ChildLists

/-! ## Where a child is put -/

def InStep (lists : ChildLists Key Item) : Prop := lists.keys.length = lists.items.length

variable {lists : ChildLists Key Item} {make : Supply → Item × Supply} {supply : Supply}

theorem position?_of_lt {position : Nat} (h : position < lists.items.length) :
    lists.position? position = some position := if_pos h

/-- While keys and items are in step, a new child is put at the end of both. -/
theorem append_eq (h : lists.InStep) (key : Key) :
    lists.append key make supply =
      (some lists.keys.length, ⟨lists.keys ++ [key], lists.items ++ [(make supply).1]⟩,
        (make supply).2) := by
  have hlast : lastPosition? ⟨lists.keys ++ [key], lists.items ++ [(make supply).1]⟩ =
      some lists.keys.length := by
    rw [lastPosition?, List.length_append, List.length_singleton, Nat.add_sub_cancel, h]
    exact position?_of_lt (by simp)
  rw [append]
  show (lastPosition? _, _, _) = _
  rw [hlast]

theorem modify_append (h : lists.InStep) (key : Key) (item : Item) (change : Item → Item) :
    modify ⟨lists.keys ++ [key], lists.items ++ [item]⟩ lists.keys.length change =
      ⟨lists.keys ++ [key], lists.items ++ [change item]⟩ := by
  rw [modify, h, List.modify_eq_set_getElem?]
  simp

variable [BEq Key] {recurrence : Recurrence} {key : Key} {position : Nat}

theorem place_none : lists.place recurrence none make supply = (none, lists, supply) := by
  cases recurrence <;> rfl

/-- A key that is found keeps its item, and nothing is made. -/
theorem place_of_finds (h : lists.InStep) (hfinds : recurrence.Finds lists.keys key position) :
    lists.place recurrence (some key) make supply = (some position, lists, supply) := by
  have hposition : lists.position? position = some position :=
    position?_of_lt (h ▸ hfinds.lt_length)
  cases recurrence with
  | adjacent =>
    have hlast : lists.items.length - 1 = position := by
      rw [← h, hfinds.length_eq, Nat.add_sub_cancel]
    rw [place, upsertLast, if_pos hfinds.any_getLast?, lastPosition?, hlast, hposition]
  | anywhere =>
    rw [place, insertUnique, hfinds.findIdx?_eq]
    show (lists.position? position, lists, supply) = _
    rw [hposition]

/-- A key that is not found is appended with an item made for it. -/
theorem place_of_lacks (h : lists.InStep) (hlacks : recurrence.Lacks lists.keys key) :
    lists.place recurrence (some key) make supply =
      (some lists.keys.length, ⟨lists.keys ++ [key], lists.items ++ [(make supply).1]⟩,
        (make supply).2) := by
  rw [← append_eq h]
  cases recurrence with
  | adjacent =>
    rw [place, upsertLast, hlacks.any_getLast?]
    rfl
  | anywhere => rw [place, insertUnique, hlacks.findIdx?_eq]

end ChildLists

namespace Visit

variable [BEq Key] {visit : Visit Key Item Supply} {lists : ChildLists Key Item} {supply : Supply}
  {answer : Option Nat × ChildLists Key Item × Supply}

/-! ## One visit -/

/-- The visit names a key that its rule does not find. -/
def Brings (visit : Visit Key Item Supply) (keys : List Key) : Prop :=
  ∃ key, visit.key = some key ∧ visit.recurrence.Lacks keys key

theorem not_brings_of_keyless (hkey : visit.key = none) (keys : List Key) :
    ¬visit.Brings keys := by
  rintro ⟨key, hsome, -⟩
  rw [hkey] at hsome
  cases hsome

theorem not_brings_of_finds {keys : List Key} {key : Key} {position : Nat}
    (hkey : visit.key = some key) (hfinds : visit.recurrence.Finds keys key position) :
    ¬visit.Brings keys := by
  rintro ⟨other, hother, hlacks⟩
  obtain rfl := Option.some.inj (hkey.symm.trans hother)
  exact hfinds.not_lacks hlacks

/-- A visit without a key leaves everything as it is. -/
theorem toLists_of_keyless (hkey : visit.key = none) :
    visit.toLists (lists, supply) = (none, lists, supply) := by
  rw [toLists, hkey, ChildLists.place_none]

/-- A visit to a known key changes its item in place. -/
theorem toLists_of_finds (h : lists.InStep) {key : Key} {position : Nat}
    (hkey : visit.key = some key) (hfinds : visit.recurrence.Finds lists.keys key position) :
    visit.toLists (lists, supply) =
      (some position, lists.modify position visit.change, supply) := by
  rw [toLists, hkey, ChildLists.place_of_finds h hfinds]

/-- A visit to a new key makes its item, changes it and puts it last. -/
theorem toLists_of_lacks (h : lists.InStep) {key : Key} (hkey : visit.key = some key)
    (hlacks : visit.recurrence.Lacks lists.keys key) :
    visit.toLists (lists, supply) =
      (some lists.keys.length,
        ⟨lists.keys ++ [key], lists.items ++ [visit.change (visit.make supply).1]⟩,
        (visit.make supply).2) := by
  rw [toLists, hkey, ChildLists.place_of_lacks h hlacks]
  show (_, ChildLists.modify _ _ _, _) = _
  rw [ChildLists.modify_append h]

/-- What a visit may do.  Without a key it is given nothing and does nothing.  If its key finds an
item, it is given that one and changes it.  If not, an item is made, and it is given that one. -/
inductive Answered (visit : Visit Key Item Supply) (lists : ChildLists Key Item)
    (supply : Supply) : Option Nat × ChildLists Key Item × Supply → Prop
  | keyless (hkey : visit.key = none) : Answered visit lists supply (none, lists, supply)
  | found {key : Key} {position : Nat} (hkey : visit.key = some key)
    (hfinds : visit.recurrence.Finds lists.keys key position) :
    Answered visit lists supply
      (some position, ⟨lists.keys, lists.items.modify position visit.change⟩, supply)
  | added {key : Key} (hkey : visit.key = some key)
    (hlacks : visit.recurrence.Lacks lists.keys key) :
    Answered visit lists supply
      (some lists.keys.length,
        ⟨lists.keys ++ [key], lists.items ++ [visit.change (visit.make supply).1]⟩,
        (visit.make supply).2)

theorem answered_toLists (visit : Visit Key Item Supply) (h : lists.InStep) (supply : Supply) :
    visit.Answered lists supply (visit.toLists (lists, supply)) := by
  cases hkey : visit.key with
  | none =>
    rw [toLists_of_keyless hkey]
    exact .keyless hkey
  | some key =>
    rcases visit.recurrence.finds_or_lacks lists.keys key with ⟨position, hfinds⟩ | hlacks
    · rw [toLists_of_finds h hkey hfinds]
      exact .found hkey hfinds
    · rw [toLists_of_lacks h hkey hlacks]
      exact .added hkey hlacks

namespace Answered

theorem inStep (h : visit.Answered lists supply answer) (hstep : lists.InStep) :
    answer.2.1.InStep := by
  cases h with
  | keyless => exact hstep
  | found => exact hstep.trans (List.length_modify ..).symm
  | added =>
    show (_ ++ [_]).length = (_ ++ [_]).length
    rw [List.length_append, List.length_append, hstep]
    rfl

/-- The keys become one more when a visit brings one, and only then. -/
theorem length_keys_iff (h : visit.Answered lists supply answer) :
    answer.2.1.keys.length = lists.keys.length + 1 ↔ visit.Brings lists.keys := by
  cases h with
  | keyless hkey =>
    exact iff_of_false (Nat.ne_of_lt (Nat.lt_succ_self _)) (not_brings_of_keyless hkey _)
  | found hkey hfinds =>
    exact iff_of_false (Nat.ne_of_lt (Nat.lt_succ_self _)) (not_brings_of_finds hkey hfinds)
  | @added key hkey hlacks => exact iff_of_true List.length_append ⟨key, hkey, hlacks⟩

theorem keys_prefix (h : visit.Answered lists supply answer) : lists.keys <+: answer.2.1.keys := by
  cases h with
  | keyless => exact List.prefix_rfl
  | found => exact List.prefix_rfl
  | added => exact List.prefix_append _ _

-- An item that is there stays where it is, and is changed by the visit that is given it.
theorem getElem?_items (h : visit.Answered lists supply answer) (hstep : lists.InStep)
    {position : Nat} {item : Item} (hitem : lists.items[position]? = some item) :
    answer.2.1.items[position]? =
      some (if answer.1 = some position then visit.change item else item) := by
  cases h with
  | keyless => exact hitem
  | found =>
    rw [List.getElem?_modify, hitem]
    simp
  | added =>
    have hlt : position < lists.items.length := (List.getElem?_eq_some_iff.mp hitem).1
    have hother : some lists.keys.length ≠ some position := by
      rw [hstep]
      exact fun heq => absurd (Option.some.inj heq) (Nat.ne_of_gt hlt)
    rw [List.getElem?_append_left hlt, hitem, if_neg hother]

end Answered

/-! ## Many visits -/

theorem listsAfter_cons (state : ChildLists Key Item × Supply) (visit : Visit Key Item Supply)
    (visits : List (Visit Key Item Supply)) :
    listsAfter state (visit :: visits) = listsAfter (visit.toLists state).2 visits := rfl

/-- After any visits keys and items are in step. -/
theorem inStep_listsAfter (visits : List (Visit Key Item Supply))
    {state : ChildLists Key Item × Supply} (h : state.1.InStep) :
    (listsAfter state visits).1.InStep := by
  induction visits generalizing state with
  | nil => exact h
  | cons visit visits ih => exact ih ((visit.answered_toLists h state.2).inStep h)

/-- Keys keep their places through all later visits. -/
theorem keys_prefix_listsAfter (visits : List (Visit Key Item Supply))
    {state : ChildLists Key Item × Supply} (h : state.1.InStep) :
    state.1.keys <+: (listsAfter state visits).1.keys := by
  induction visits generalizing state with
  | nil => exact List.prefix_rfl
  | cons visit visits ih =>
    have hanswered := visit.answered_toLists h state.2
    exact hanswered.keys_prefix.trans (ih (hanswered.inStep h))

/-- What visits make of the item at a position: each that is given it changes it. -/
def itemAfter (position : Nat) (state : ChildLists Key Item × Supply) (item : Item) :
    List (Visit Key Item Supply) → Item
  | [] => item
  | visit :: visits =>
    itemAfter position (visit.toLists state).2
      (if (visit.toLists state).1 = some position then visit.change item else item) visits

/-- An item becomes what the visits to its place make of it. -/
theorem getElem?_items_listsAfter (visits : List (Visit Key Item Supply))
    {state : ChildLists Key Item × Supply} (h : state.1.InStep) {position : Nat} {item : Item}
    (hitem : state.1.items[position]? = some item) :
    (listsAfter state visits).1.items[position]? = some (itemAfter position state item visits) := by
  induction visits generalizing state item with
  | nil => exact hitem
  | cons visit visits ih =>
    have hanswered := visit.answered_toLists h state.2
    exact ih (hanswered.inStep h) (hanswered.getElem?_items h hitem)

end Visit

/-! ## Children that stand with their keys -/

namespace Children

def lists (children : Children Key Item) : ChildLists Key Item where
  keys := children.keys
  items := children.items

theorem inStep_lists (children : Children Key Item) : children.lists.InStep := by
  show (children.entries.map Prod.fst).length = (children.entries.map Prod.snd).length
  rw [List.length_map, List.length_map]

theorem lists_append (children : Children Key Item) (key : Key) (item : Item) :
    lists ⟨children.entries ++ [(key, item)]⟩ =
      ⟨children.lists.keys ++ [key], children.lists.items ++ [item]⟩ := by
  simp [lists, keys, items]

-- A change of entries, as it shows in a part of them.
theorem map_modify {α : Type u} {β : Type v} (f : α → β) (g : α → α) (k : β → β)
    (h : ∀ a, f (g a) = k (f a)) (as : List α) (position : Nat) :
    (as.modify position g).map f = (as.map f).modify position k := by
  induction as generalizing position with
  | nil => rw [List.modify_nil, List.map_nil, List.modify_nil]
  | cons a as ih =>
    cases position with
    | zero => rw [List.modify_zero_cons, List.map_cons, List.map_cons, List.modify_zero_cons, h]
    | succ position =>
      rw [List.modify_succ_cons, List.map_cons, ih, List.map_cons, List.modify_succ_cons]

/-- A change in place changes the same item of the list of items. -/
theorem lists_modify (children : Children Key Item) (position : Nat) (change : Item → Item) :
    (children.modify position change).lists = children.lists.modify position change := by
  let onItem (entry : Key × Item) : Key × Item := (entry.1, change entry.2)
  have hkeys : (children.modify position change).keys = children.keys :=
    (map_modify Prod.fst onItem id (fun _ => rfl) children.entries position).trans
      (List.modify_id position children.keys)
  have hitems : (children.modify position change).items =
      children.items.modify position change :=
    map_modify Prod.snd onItem change (fun _ => rfl) children.entries position
  rw [lists, hkeys, hitems, ChildLists.modify, lists]

end Children

namespace Visit

variable [BEq Key] {visit : Visit Key Item Supply} {children : Children Key Item} {supply : Supply}

theorem toChildren_of_keyless (hkey : visit.key = none) :
    visit.toChildren (children, supply) = (none, children, supply) := by
  simp only [toChildren, hkey, Children.place_none, Children.placeAnd_none]
  rfl

theorem toChildren_of_finds {key : Key} {position : Nat} (hkey : visit.key = some key)
    (hfinds : visit.recurrence.Finds children.keys key position) :
    visit.toChildren (children, supply) =
      (some ⟨position, false⟩, children.modify position visit.change, supply) := by
  simp only [toChildren, hkey, Children.placeAnd, Children.place_of_finds hfinds]
  rfl

theorem toChildren_of_lacks {key : Key} (hkey : visit.key = some key)
    (hlacks : visit.recurrence.Lacks children.keys key) :
    visit.toChildren (children, supply) =
      (some ⟨children.entries.length, true⟩,
        ⟨children.entries ++ [(key, visit.change (visit.make supply).1)]⟩,
        (visit.make supply).2) := by
  simp only [toChildren, hkey, Children.placeAnd, Children.place_of_lacks hlacks]
  rw [Children.modify_length]
  rfl

/-- A place is called new when the visit brings its key. -/
theorem isNew_toChildren_iff (visit : Visit Key Item Supply) (children : Children Key Item)
    (supply : Supply) :
    (visit.toChildren (children, supply)).1.any Place.isNew ↔ visit.Brings children.keys := by
  cases hkey : visit.key with
  | none =>
    rw [toChildren_of_keyless hkey]
    exact iff_of_false Bool.false_ne_true (not_brings_of_keyless hkey _)
  | some key =>
    rcases visit.recurrence.finds_or_lacks children.keys key with ⟨position, hfinds⟩ | hlacks
    · rw [toChildren_of_finds hkey hfinds]
      exact iff_of_false Bool.false_ne_true (not_brings_of_finds hkey hfinds)
    · rw [toChildren_of_lacks hkey hlacks]
      exact iff_of_true rfl ⟨key, hkey, hlacks⟩

-- Where keys and items stand does not matter to a visit.
theorem toLists_lists (visit : Visit Key Item Supply) (children : Children Key Item)
    (supply : Supply) :
    visit.toLists (children.lists, supply) =
      ((visit.toChildren (children, supply)).1.map Place.position,
        (visit.toChildren (children, supply)).2.1.lists,
        (visit.toChildren (children, supply)).2.2) := by
  have hstep := children.inStep_lists
  cases hkey : visit.key with
  | none =>
    rw [toLists_of_keyless hkey, toChildren_of_keyless hkey]
    rfl
  | some key =>
    rcases visit.recurrence.finds_or_lacks children.keys key with ⟨position, hfinds⟩ | hlacks
    · rw [toLists_of_finds hstep hkey hfinds, toChildren_of_finds hkey hfinds,
        Children.lists_modify]
      rfl
    · rw [toLists_of_lacks hstep hkey hlacks, toChildren_of_lacks hkey hlacks,
        Children.lists_append]
      show (some (children.entries.map Prod.fst).length, _, _) = _
      rw [List.length_map]
      rfl

/-- Two lists and one list of entries stay in step through any visits. -/
theorem listsAfter_lists (visits : List (Visit Key Item Supply)) (children : Children Key Item)
    (supply : Supply) :
    listsAfter (children.lists, supply) visits =
      ((childrenAfter (children, supply) visits).1.lists,
        (childrenAfter (children, supply) visits).2) := by
  induction visits generalizing children supply with
  | nil => rfl
  | cons visit visits ih =>
    rw [listsAfter_cons, toLists_lists, ih]
    rfl

/-! ## Visits in any mixture -/

/-- Whatever visits came earlier and whatever visits come later: the two lists hold an item for each
key, the same keys and items as children that stand with their keys and were visited likewise, and
the next visit is given the same place in both.  It adds a key exactly where its rule finds none,
makes an item there and nowhere else, and is given the item that it makes or the one that it finds.
Later visits leave each key in its place, and change the item there only when they are given it. -/
theorem lists_in_step_of_visits (supply : Supply) (earlier : List (Visit Key Item Supply))
    (visit : Visit Key Item Supply) (later : List (Visit Key Item Supply)) :
    let before := listsAfter (({} : ChildLists Key Item), supply) earlier
    let children := childrenAfter (({} : Children Key Item), supply) earlier
    let answer := visit.toLists before
    before.1.keys.length = before.1.items.length ∧
      before = (⟨children.1.keys, children.1.items⟩, children.2) ∧
      answer.1 = (visit.toChildren children).1.map Place.position ∧
      visit.Answered before.1 before.2 answer ∧
      (answer.2.1.keys.length = before.1.keys.length + 1 ↔ visit.Brings before.1.keys) ∧
      ((visit.toChildren children).1.any Place.isNew ↔ visit.Brings before.1.keys) ∧
      before.1.keys <+: (listsAfter before later).1.keys ∧
      ∀ position item, before.1.items[position]? = some item →
        (listsAfter before later).1.items[position]? =
          some (itemAfter position before item later) := by
  intro before children answer
  have hbefore : before = (children.1.lists, children.2) := listsAfter_lists earlier {} supply
  have hstep : before.1.InStep := inStep_listsAfter earlier rfl
  have hanswered : visit.Answered before.1 before.2 answer := visit.answered_toLists hstep before.2
  have hgiven : answer.1 = (visit.toChildren children).1.map Place.position := by
    show (visit.toLists before).1 = _
    rw [hbefore, toLists_lists]
  have hnew : (visit.toChildren children).1.any Place.isNew ↔ visit.Brings before.1.keys := by
    rw [hbefore]
    exact visit.isNew_toChildren_iff children.1 children.2
  exact ⟨hstep, hbefore, hgiven, hanswered, hanswered.length_keys_iff, hnew,
    keys_prefix_listsAfter later hstep, fun _ _ => getElem?_items_listsAfter later hstep⟩

/-- A key that stands in two places finds the first of them by the one rule, and by the other the
last, as long as it is the last of all. -/
theorem lists_in_step_of_mixed_visits :
    let visit (recurrence : Recurrence) (key : Option Nat) (row : Nat) : Visit Nat (List Nat) Nat :=
      ⟨recurrence, key, fun made => ([], made + 1), (· ++ [row])⟩
    let earlier := [visit .adjacent (some 1) 10, visit .anywhere (some 2) 11,
      visit .adjacent (some 1) 12]
    let next := visit .anywhere (some 1) 13
    let later := [next, visit .adjacent none 14, visit .adjacent (some 1) 15,
      visit .anywhere (some 0) 16]
    listsAfter ({}, 0) earlier = (⟨[1, 2, 1], [[10], [11], [12]]⟩, 3) ∧
      next.Answered ⟨[1, 2, 1], [[10], [11], [12]]⟩ 3
        (some 0, ⟨[1, 2, 1], [[10, 13], [11], [12]]⟩, 3) ∧
      [[10], [11], [12]][2]? = some [12] ∧
      (listsAfter (⟨[1, 2, 1], [[10], [11], [12]]⟩, 3) later).1.items[2]? = some [12, 15] := by
  intro visit earlier next later
  have hbefore : listsAfter ({}, 0) earlier = (⟨[1, 2, 1], [[10], [11], [12]]⟩, 3) := by decide
  obtain ⟨-, -, -, hanswered, -, -, -, hitems⟩ := lists_in_step_of_visits 0 earlier next later
  rw [hbefore] at hanswered hitems
  have hanswer : next.toLists (⟨[1, 2, 1], [[10], [11], [12]]⟩, 3) =
      (some 0, ⟨[1, 2, 1], [[10, 13], [11], [12]]⟩, 3) := by decide
  rw [hanswer] at hanswered
  exact ⟨hbefore, hanswered, by decide, (hitems 2 [12] (by decide)).trans (by decide)⟩

end Visit

end Daybook.Grouping
