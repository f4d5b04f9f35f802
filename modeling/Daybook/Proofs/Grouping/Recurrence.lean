import Daybook.Grouping.Children
import Mathlib.Data.List.Chain

/-!
# Children that come back

A row that names a child brings it or belongs to one that is there, which is the one that its key
finds by the rule of recurrence.  As long as the rule can tell the children apart, a new child is
put at the end, and the rows that follow it with the same key are its own.
-/

namespace Daybook.Grouping

universe u v w

variable {Key : Type u} {Item : Type v}

/-! ## What a key finds -/

namespace Recurrence

section Finds

variable [BEq Key] {recurrence : Recurrence} {keys : List Key} {key : Key} {position : Nat}

/-- The key finds the child at this position, whose key equals it: the last child by the one rule,
the first one with such a key by the other. -/
def Finds (recurrence : Recurrence) (keys : List Key) (key : Key) (position : Nat) : Prop :=
  ∃ front same back, keys = front ++ same :: back ∧ front.length = position ∧ same == key ∧
    match recurrence with
    | .adjacent => back = []
    | .anywhere => ∀ other ∈ front, ¬other == key

/-- The key finds no child: the last child has another key, or all of them have. -/
def Lacks (recurrence : Recurrence) (keys : List Key) (key : Key) : Prop :=
  match recurrence with
  | .adjacent => ∀ last ∈ keys.getLast?, ¬last == key
  | .anywhere => ∀ other ∈ keys, ¬other == key

/-- A rule finds a key or lacks it. -/
theorem finds_or_lacks (recurrence : Recurrence) (keys : List Key) (key : Key) :
    (∃ position, recurrence.Finds keys key position) ∨ recurrence.Lacks keys key := by
  cases recurrence with
  | adjacent =>
    by_cases hlast : ∃ last ∈ keys.getLast?, last == key
    · obtain ⟨last, hmem, hsame⟩ := hlast
      obtain ⟨front, hkeys⟩ := List.getLast?_eq_some_iff.mp hmem
      exact .inl ⟨front.length, front, last, [], hkeys, rfl, hsame, rfl⟩
    · exact .inr fun last hmem hsame => hlast ⟨last, hmem, hsame⟩
  | anywhere =>
    cases hfirst : keys.find? (· == key) with
    | none => exact .inr (List.find?_eq_none.mp hfirst)
    | some same =>
      obtain ⟨hsame, front, back, hkeys, hfront⟩ := List.find?_eq_some_iff_append.mp hfirst
      refine .inl ⟨front.length, front, same, back, hkeys, rfl, hsame, fun other hother => ?_⟩
      simpa using hfront other hother

theorem Finds.not_lacks (h : recurrence.Finds keys key position) :
    ¬recurrence.Lacks keys key := by
  obtain ⟨front, same, back, rfl, -, hsame, hrule⟩ := h
  intro hlacks
  cases recurrence with
  | adjacent =>
    obtain rfl : back = [] := hrule
    exact hlacks same List.getLast?_concat hsame
  | anywhere => exact hlacks same (by simp) hsame

theorem Finds.lt_length (h : recurrence.Finds keys key position) : position < keys.length := by
  obtain ⟨front, same, back, rfl, rfl, -⟩ := h
  rw [List.length_append, List.length_cons]
  omega

/-- The rule that looks at the last child finds it last. -/
theorem Finds.length_eq (h : adjacent.Finds keys key position) : keys.length = position + 1 := by
  obtain ⟨front, same, back, rfl, rfl, -, rfl⟩ := h
  exact List.length_append

theorem Finds.any_getLast? (h : adjacent.Finds keys key position) :
    keys.getLast?.any (· == key) = true := by
  obtain ⟨front, same, back, rfl, -, hsame, rfl⟩ := h
  rw [List.getLast?_concat, Option.any_some, hsame]

theorem Lacks.any_getLast? (h : adjacent.Lacks keys key) :
    keys.getLast?.any (· == key) = false := by
  cases hlast : keys.getLast? with
  | none => rfl
  | some last => exact Bool.eq_false_iff.mpr (h last hlast)

theorem Lacks.findIdx?_eq (h : anywhere.Lacks keys key) : keys.findIdx? (· == key) = none := by
  rw [List.findIdx?_eq_none_iff]
  exact fun other hother => Bool.eq_false_iff.mpr (h other hother)

theorem Finds.findIdx?_eq (h : anywhere.Finds keys key position) :
    keys.findIdx? (· == key) = some position := by
  obtain ⟨front, same, back, rfl, rfl, hsame, hfront⟩ := h
  have hnone : front.findIdx? (· == key) = none := Lacks.findIdx?_eq hfront
  rw [List.findIdx?_append, hnone, List.findIdx?_cons, if_pos hsame]
  simp

end Finds

end Recurrence

/-! ## Children that a rule can tell apart -/

/-- The rule can tell apart children whose keys come in this order: neighbours differ, or all of
them do. -/
def Recurrence.Separates (recurrence : Recurrence) (keys : List Key) : Prop :=
  match recurrence with
  | .adjacent => keys.IsChain (· ≠ ·)
  | .anywhere => keys.Nodup

instance [DecidableEq Key] (recurrence : Recurrence) (keys : List Key) :
    Decidable (recurrence.Separates keys) :=
  match recurrence with
  | .adjacent => inferInstanceAs (Decidable (keys.IsChain (· ≠ ·)))
  | .anywhere => inferInstanceAs (Decidable keys.Nodup)

theorem Recurrence.Separates.of_append {recurrence : Recurrence} {keys later : List Key}
    (h : recurrence.Separates (keys ++ later)) : recurrence.Separates keys := by
  cases recurrence with
  | adjacent => exact List.IsChain.left_of_append h
  | anywhere => exact (List.nodup_append.mp h).1

theorem Recurrence.Separates.of_append_cons {recurrence : Recurrence} {keys later : List Key}
    {key : Key} (h : recurrence.Separates (keys ++ key :: later)) :
    recurrence.Separates (keys ++ [key]) := by
  rw [← List.singleton_append, ← List.append_assoc] at h
  exact h.of_append

section Separates

variable [BEq Key] [LawfulBEq Key] {recurrence : Recurrence} {keys : List Key} {key : Key}

/-- The next of keys that can be told apart is not found before it is added. -/
theorem Recurrence.Separates.lacks (h : recurrence.Separates (keys ++ [key])) :
    recurrence.Lacks keys key := by
  cases recurrence with
  | adjacent =>
    intro last hlast hsame
    exact (List.isChain_append.mp h).2.2 last hlast key rfl (eq_of_beq hsame)
  | anywhere =>
    intro other hother hsame
    exact (List.nodup_append.mp h).2.2 other hother key List.mem_cons_self (eq_of_beq hsame)

/-- Once a key is added that can be told apart, it is found in the last place. -/
theorem Recurrence.Separates.finds (h : recurrence.Separates (keys ++ [key])) :
    recurrence.Finds (keys ++ [key]) key keys.length := by
  refine ⟨keys, key, [], rfl, rfl, BEq.refl key, ?_⟩
  cases recurrence with
  | adjacent => rfl
  | anywhere => exact h.lacks

end Separates

namespace Children

/-! ## Where a child is put -/

section Place

variable [BEq Key] {recurrence : Recurrence} {children : Children Key Item} {key : Key}
  {position : Nat} {fresh : Item}

theorem any_getLast?_entries (children : Children Key Item) (key : Key) :
    (children.entries.getLast?.any fun entry => entry.1 == key) =
      children.keys.getLast?.any (· == key) := by
  rw [keys, List.getLast?_map, Option.any_map]

theorem findIdx?_entries (children : Children Key Item) (key : Key) :
    (children.entries.findIdx? fun entry => entry.1 == key) =
      children.keys.findIdx? (· == key) := by
  rw [keys, List.findIdx?_map]
  rfl

theorem place_none (children : Children Key Item) :
    children.place recurrence none fresh = (none, children) := by
  cases recurrence <;> rfl

theorem placeAnd_none (children : Children Key Item) (change : Item → Item) :
    children.placeAnd recurrence none fresh change = children := by
  rw [placeAnd, place_none]

/-- A key that is found has a place already. -/
theorem place_of_finds (h : recurrence.Finds children.keys key position) :
    children.place recurrence (some key) fresh = (some ⟨position, false⟩, children) := by
  cases recurrence with
  | adjacent =>
    have hlength : children.entries.length = position + 1 := by
      rw [← h.length_eq, keys, List.length_map]
    rw [place, upsertLast, any_getLast?_entries, if_pos h.any_getLast?, hlength]
    rfl
  | anywhere => rw [place, insertUnique, findIdx?_entries, h.findIdx?_eq]

/-- A key that is not found gets a new place after all others. -/
theorem place_of_lacks (h : recurrence.Lacks children.keys key) :
    children.place recurrence (some key) fresh =
      (some ⟨children.entries.length, true⟩, ⟨children.entries ++ [(key, fresh)]⟩) := by
  cases recurrence with
  | adjacent =>
    rw [place, upsertLast, any_getLast?_entries, h.any_getLast?]
    rfl
  | anywhere =>
    rw [place, insertUnique, findIdx?_entries, h.findIdx?_eq]
    rfl

end Place

variable [BEq Key] [LawfulBEq Key] {recurrence : Recurrence} {front back : List (Key × Item)}
  {key : Key} {item fresh : Item}

theorem place_of_new (h : recurrence.Separates (front.map Prod.fst ++ [key])) :
    place recurrence ⟨front⟩ (some key) fresh =
      (some ⟨front.length, true⟩, ⟨front ++ [(key, fresh)]⟩) :=
  place_of_lacks h.lacks

theorem place_of_last (h : recurrence.Separates (front.map Prod.fst ++ [key])) :
    place recurrence ⟨front ++ [(key, item)]⟩ (some key) fresh =
      (some ⟨front.length, false⟩, ⟨front ++ [(key, item)]⟩) := by
  apply place_of_finds
  rw [keys, List.map_append, List.map_singleton, ← List.length_map Prod.fst]
  exact h.finds

omit [BEq Key] [LawfulBEq Key] in
theorem modify_length (change : Item → Item) :
    modify ⟨front ++ (key, item) :: back⟩ front.length change =
      ⟨front ++ (key, change item) :: back⟩ := by
  rw [modify, List.modify_eq_set_getElem?]
  simp

/-- A child that is new is added and changed at once. -/
theorem placeAnd_of_new (h : recurrence.Separates (front.map Prod.fst ++ [key]))
    (change : Item → Item) :
    placeAnd recurrence ⟨front⟩ (some key) fresh change = ⟨front ++ [(key, change fresh)]⟩ := by
  rw [placeAnd, place_of_new h]
  exact modify_length change

/-- A child that was added last is changed where it is. -/
theorem placeAnd_of_last (h : recurrence.Separates (front.map Prod.fst ++ [key]))
    (change : Item → Item) :
    placeAnd recurrence ⟨front ++ [(key, item)]⟩ (some key) fresh change =
      ⟨front ++ [(key, change item)]⟩ := by
  rw [placeAnd, place_of_last h]
  exact modify_length change

/-! ## All rows of one child -/

variable {Column : Type w} (change : Column → Item → Item)

/-- All columns of one child change the same entry. -/
theorem foldl_placeAnd_of_last (h : recurrence.Separates (front.map Prod.fst ++ [key]))
    (columns : List Column) (item : Item) :
    columns.foldl (fun (children : Children Key Item) column =>
        children.placeAnd recurrence (some key) fresh (change column)) ⟨front ++ [(key, item)]⟩ =
      ⟨front ++ [(key, columns.foldl (fun item column => change column item) item)]⟩ := by
  induction columns generalizing item with
  | nil => rfl
  | cons column columns ih => rw [List.foldl_cons, placeAnd_of_last h, ih, List.foldl_cons]

-- The first row of a child brings it, and the others find it at the end.
theorem foldl_placeAnd_of_new (h : recurrence.Separates (front.map Prod.fst ++ [key]))
    (fresh : Item) {columns : List Column} (hne : columns ≠ []) :
    columns.foldl (fun (children : Children Key Item) column =>
        children.placeAnd recurrence (some key) fresh (change column)) ⟨front⟩ =
      ⟨front ++ [(key, columns.foldl (fun item column => change column item) fresh)]⟩ := by
  cases columns with
  | nil => exact absurd rfl hne
  | cons column columns =>
    rw [List.foldl_cons, placeAnd_of_new h, foldl_placeAnd_of_last change h, List.foldl_cons]

-- Children without anything to fill, one row each.
theorem foldl_place (keys : List Key) (front : List (Key × Item))
    (h : recurrence.Separates (front.map Prod.fst ++ keys)) :
    keys.foldl (fun (children : Children Key Item) key =>
        (children.place recurrence (some key) fresh).2) ⟨front⟩ =
      ⟨front ++ keys.map fun key => (key, fresh)⟩ := by
  induction keys generalizing front with
  | nil => simp
  | cons key keys ih =>
    have hnext : recurrence.Separates ((front ++ [(key, fresh)]).map Prod.fst ++ keys) := by
      simpa using h
    rw [List.foldl_cons, place_of_new h.of_append_cons, ih _ hnext]
    simp

end Children

end Daybook.Grouping
