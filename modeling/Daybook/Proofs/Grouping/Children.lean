import Daybook.Proofs.Grouping.Recurrence
import Mathlib.Data.List.Nodup

/-!
# Filling children

Children that arrive row by row, each under a key of its own.  Rows that repeat a child leave the
children as they are, as long as the repetition is of the kind that the rule of recurrence foresees.
-/

namespace Daybook.Grouping.Children

universe u v

variable {Key : Type u} {Item : Type v} (key : Item → Key)

def ofItems (items : List Item) : Children Key Item where
  entries := items.map fun item => (key item, item)

@[simp] theorem items_ofItems (items : List Item) : (ofItems key items).items = items := by
  rw [Children.items, ofItems, List.map_map]
  exact List.map_id items

@[simp] theorem keys_ofItems (items : List Item) : (ofItems key items).keys = items.map key := by
  rw [Children.keys, ofItems, List.map_map]
  rfl

theorem ofItems_nil : ofItems key [] = {} := rfl

variable [BEq Key]

def addAdjacent (children : Children Key Item) (item : Item) : Children Key Item :=
  (children.upsertLast (some (key item)) item).2

def addUnique (children : Children Key Item) (item : Item) : Children Key Item :=
  (children.insertUnique (some (key item)) item).2

variable [LawfulBEq Key]

/-! ## Children recognised by the last one -/

/-- A child with another key than the last one is added. -/
theorem addAdjacent_of_ne {items : List Item} {item : Item}
    (h : ∀ last ∈ items.getLast?, key last ≠ key item) :
    addAdjacent key (ofItems key items) item = ofItems key (items ++ [item]) := by
  have hlacks : Recurrence.adjacent.Lacks (ofItems key items).keys (key item) := by
    intro last hlast hsame
    rw [keys_ofItems, List.getLast?_map] at hlast
    obtain ⟨other, hother, rfl⟩ := Option.map_eq_some_iff.mp hlast
    exact h other hother (eq_of_beq hsame)
  show ((ofItems key items).place .adjacent (some (key item)) item).2 = _
  rw [place_of_lacks hlacks]
  simp [ofItems]

theorem addAdjacent_of_last (items : List Item) (item : Item) :
    addAdjacent key (ofItems key (items ++ [item])) item = ofItems key (items ++ [item]) := by
  have hfinds : Recurrence.adjacent.Finds (ofItems key (items ++ [item])).keys (key item)
      items.length := by
    rw [keys_ofItems, List.map_append]
    exact ⟨items.map key, key item, [], rfl, List.length_map key, BEq.refl _, rfl⟩
  show ((ofItems key (items ++ [item])).place .adjacent (some (key item)) item).2 = _
  rw [place_of_finds hfinds]

theorem foldl_addAdjacent_replicate (items : List Item) (item : Item) (n : Nat) :
    (List.replicate n item).foldl (addAdjacent key) (ofItems key (items ++ [item])) =
      ofItems key (items ++ [item]) := by
  induction n with
  | zero => rfl
  | succ n ih => rw [List.replicate_succ, List.foldl_cons, addAdjacent_of_last, ih]

-- Items that come `n` times in a row each are taken once each.
theorem foldl_addAdjacent_flatMap {n : Nat} (hn : 0 < n) (items done : List Item)
    (hchain : (done ++ items).IsChain fun a b => key a ≠ key b) :
    (items.flatMap (List.replicate n)).foldl (addAdjacent key) (ofItems key done) =
      ofItems key (done ++ items) := by
  induction items generalizing done with
  | nil => rw [List.flatMap_nil, List.foldl_nil, List.append_nil]
  | cons item items ih =>
    obtain ⟨m, rfl⟩ : ∃ m, n = m + 1 := ⟨n - 1, by omega⟩
    have hlast : ∀ last ∈ done.getLast?, key last ≠ key item := fun last hlast =>
      (List.isChain_append.mp hchain).2.2 last hlast item rfl
    rw [List.flatMap_cons, List.foldl_append, List.replicate_succ, List.foldl_cons,
      addAdjacent_of_ne key hlast, foldl_addAdjacent_replicate, ih]
    · rw [List.append_assoc, List.singleton_append]
    · rwa [List.append_assoc, List.singleton_append]

/-- Children that differ from their neighbours are all added. -/
theorem foldl_addAdjacent (items : List Item) (h : items.IsChain fun a b => key a ≠ key b) :
    items.foldl (addAdjacent key) {} = ofItems key items := by
  have honce := foldl_addAdjacent_flatMap key Nat.one_pos items [] h
  rwa [show items.flatMap (List.replicate 1) = items from List.flatMap_singleton' items] at honce

/-! ## Children recognised anywhere -/

/-- A child with a new key is added. -/
theorem addUnique_of_not_mem {items : List Item} {item : Item} (h : key item ∉ items.map key) :
    addUnique key (ofItems key items) item = ofItems key (items ++ [item]) := by
  have hlacks : Recurrence.anywhere.Lacks (ofItems key items).keys (key item) := by
    intro other hother hsame
    rw [keys_ofItems] at hother
    exact h (eq_of_beq hsame ▸ hother)
  show ((ofItems key items).place .anywhere (some (key item)) item).2 = _
  rw [place_of_lacks hlacks]
  simp [ofItems]

theorem addUnique_of_mem {items : List Item} {item : Item} (h : key item ∈ items.map key) :
    addUnique key (ofItems key items) item = ofItems key items := by
  show ((ofItems key items).place .anywhere (some (key item)) item).2 = _
  rcases Recurrence.anywhere.finds_or_lacks (ofItems key items).keys (key item) with
    ⟨position, hfinds⟩ | hlacks
  · rw [place_of_finds hfinds]
  · rw [keys_ofItems] at hlacks
    exact absurd (BEq.refl _) (hlacks (key item) h)

theorem foldl_addUnique_of_mem (repeated items : List Item)
    (hmem : ∀ item ∈ repeated, key item ∈ items.map key) :
    repeated.foldl (addUnique key) (ofItems key items) = ofItems key items := by
  induction repeated with
  | nil => rfl
  | cons item repeated ih =>
    rw [List.foldl_cons, addUnique_of_mem key (hmem item List.mem_cons_self)]
    exact ih fun other hother => hmem other (List.mem_cons_of_mem item hother)

/-! ## Children that came first -/

/-- The items that are the first of their keys, apart from the keys that were seen before. -/
def firsts (seen : List Key) : List Item → List Item
  | [] => []
  | item :: items =>
    if seen.contains (key item) then firsts seen items
    else item :: firsts (seen ++ [key item]) items

theorem firsts_cons_of_mem {seen : List Key} {item : Item} (h : key item ∈ seen)
    (items : List Item) : firsts key seen (item :: items) = firsts key seen items := by
  rw [firsts, if_pos (List.contains_iff_mem.mpr h)]

theorem firsts_cons_of_notMem {seen : List Key} {item : Item} (h : key item ∉ seen)
    (items : List Item) :
    firsts key seen (item :: items) = item :: firsts key (seen ++ [key item]) items := by
  rw [firsts, if_neg (mt List.contains_iff_mem.mp h)]

/-- Of children that come in any order, the first of each key is added. -/
theorem foldl_addUnique (items done : List Item) :
    items.foldl (addUnique key) (ofItems key done) =
      ofItems key (done ++ firsts key (done.map key) items) := by
  induction items generalizing done with
  | nil => rw [List.foldl_nil, firsts, List.append_nil]
  | cons item items ih =>
    by_cases hmem : key item ∈ done.map key
    · rw [List.foldl_cons, addUnique_of_mem key hmem, ih, firsts_cons_of_mem key hmem]
    · rw [List.foldl_cons, addUnique_of_not_mem key hmem, ih, firsts_cons_of_notMem key hmem,
        List.map_append, List.map_singleton, List.append_assoc, List.singleton_append]

/-- The first of its key is the one that a search for the key finds. -/
theorem mem_firsts_iff {seen : List Key} {items : List Item} {item : Item} :
    item ∈ firsts key seen items ↔
      key item ∉ seen ∧ items.find? (fun other => key other == key item) = some item := by
  induction items generalizing seen with
  | nil => simp [firsts]
  | cons first items ih =>
    by_cases hseen : key first ∈ seen
    · rw [firsts_cons_of_mem key hseen, ih]
      refine and_congr_right fun hnew => ?_
      rw [List.find?_cons_of_neg]
      rw [beq_iff_eq]
      exact fun heq => hnew (heq ▸ hseen)
    · rw [firsts_cons_of_notMem key hseen, List.mem_cons, ih]
      by_cases hkey : key first = key item
      · rw [List.find?_cons_of_pos (by rw [beq_iff_eq, hkey])]
        simp [← hkey, hseen, eq_comm]
      · rw [List.find?_cons_of_neg (by rwa [beq_iff_eq])]
        have hne : item ≠ first := fun heq => hkey (congrArg key heq.symm)
        simp [hne, Ne.symm hkey]

theorem key_mem_firsts {seen : List Key} {items : List Item} {item : Item} (h : item ∈ items)
    (hnew : key item ∉ seen) : key item ∈ (firsts key seen items).map key := by
  have hfound : (items.find? fun other => key other == key item).isSome :=
    List.find?_isSome.mpr ⟨item, h, beq_self_eq_true _⟩
  obtain ⟨first, hfirst⟩ := Option.isSome_iff_exists.mp hfound
  have hkey : key first = key item := by simpa using List.find?_some hfirst
  refine List.mem_map.mpr ⟨first, (mem_firsts_iff key).mpr ?_, hkey⟩
  rw [hkey]
  exact ⟨hnew, hfirst⟩

/-- Where all keys differ, every child is the first of its key. -/
theorem firsts_of_nodup {seen : List Key} {items : List Item}
    (h : (seen ++ items.map key).Nodup) : firsts key seen items = items := by
  induction items generalizing seen with
  | nil => rfl
  | cons item items ih =>
    rw [List.map_cons] at h
    have hnew : key item ∉ seen := fun hmem =>
      (List.nodup_append.mp h).2.2 _ hmem _ List.mem_cons_self rfl
    rw [firsts_cons_of_notMem key hnew, ih]
    rwa [List.append_assoc, List.singleton_append]

-- A list that comes back whole any number of times is taken once.
theorem foldl_addUnique_replicate {n : Nat} (hn : 0 < n) (items : List Item) :
    (List.replicate n items).flatten.foldl (addUnique key) {} =
      ofItems key (firsts key [] items) := by
  obtain ⟨m, rfl⟩ : ∃ m, n = m + 1 := ⟨n - 1, by omega⟩
  rw [List.replicate_succ, List.flatten_cons, List.foldl_append, ← ofItems_nil key,
    foldl_addUnique, List.map_nil, List.nil_append]
  apply foldl_addUnique_of_mem
  intro item hitem
  obtain ⟨copy, hcopy, hitem⟩ := List.mem_flatten.mp hitem
  rw [List.eq_of_mem_replicate hcopy] at hitem
  exact key_mem_firsts key hitem List.not_mem_nil

theorem nodup_firsts (seen : List Key) (items : List Item) :
    ((firsts key seen items).map key).Nodup := by
  induction items generalizing seen with
  | nil => exact List.nodup_nil
  | cons item items ih =>
    by_cases hseen : key item ∈ seen
    · rw [firsts_cons_of_mem key hseen]
      exact ih seen
    · rw [firsts_cons_of_notMem key hseen, List.map_cons, List.nodup_cons]
      refine ⟨fun hmem => ?_, ih _⟩
      obtain ⟨other, hother, hkey⟩ := List.mem_map.mp hmem
      have hnew := ((mem_firsts_iff key).mp hother).1
      exact hnew (by simp [hkey])

-- Which items come first decides which are kept, but not in which order.
theorem firsts_perm {items others : List Item}
    (h : ∀ k, items.find? (fun item => key item == k) = others.find? (fun item => key item == k))
    (seen : List Key) : (firsts key seen items).Perm (firsts key seen others) := by
  refine (List.perm_ext_iff_of_nodup (List.Nodup.of_map key (nodup_firsts key seen items))
    (List.Nodup.of_map key (nodup_firsts key seen others))).mpr fun item => ?_
  rw [mem_firsts_iff, mem_firsts_iff, h]

theorem find?_eq_some_iff_of_nodup {items : List Item} (hnodup : (items.map key).Nodup) {k : Key}
    {item : Item} :
    items.find? (fun other => key other == k) = some item ↔ item ∈ items ∧ key item = k := by
  constructor
  · intro h
    exact ⟨List.mem_of_find?_eq_some h, by simpa using List.find?_some h⟩
  · rintro ⟨hitem, rfl⟩
    have hfound : (items.find? fun other => key other == key item).isSome :=
      List.find?_isSome.mpr ⟨item, hitem, beq_self_eq_true _⟩
    obtain ⟨other, hother⟩ := Option.isSome_iff_exists.mp hfound
    have hkey : key other = key item := by simpa using List.find?_some hother
    rw [hother, List.inj_on_of_nodup_map hnodup (List.mem_of_find?_eq_some hother) hitem hkey]

-- Where all keys differ, each item is the first of its key in any order.
theorem find?_eq_of_perm {items others : List Item} (h : items.Perm others)
    (hnodup : (items.map key).Nodup) (k : Key) :
    items.find? (fun item => key item == k) = others.find? (fun item => key item == k) := by
  apply Option.ext
  intro item
  rw [find?_eq_some_iff_of_nodup key hnodup,
    find?_eq_some_iff_of_nodup key ((h.map key).nodup_iff.mp hnodup), h.mem_iff]

end Daybook.Grouping.Children
