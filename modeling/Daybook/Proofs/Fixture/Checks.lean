import Daybook.Fixture
import Daybook.Proofs.Grouping.RunKeys

/-!
# What the checks find

The check of keys passes exactly the lists that a grouper makes one document of for each key, and
the check of values exactly those in rising order.  Otherwise a check tells the first fault.
-/

namespace Daybook.Fixture

open Grouping

universe u v w

/-- The first of the faults that there are, if there are any. -/
inductive FirstOf {Fault : Type} (isThere : Fault → Prop) (index : Fault → Nat) :
    Option Fault → Prop
  | none (h : ∀ fault, ¬isThere fault) : FirstOf isThere index none
  | some {fault : Fault} (h : isThere fault)
    (hfirst : ∀ other, isThere other → index fault ≤ index other) :
    FirstOf isThere index (some fault)

/-! ## Keys that come back -/

section Keys

variable {Key : Type}

/-- At its index stands its key, which some row before it has, but not the one next to it. -/
def Reappearance.IsIn (fault : Reappearance Key) (keys : List Key) : Prop :=
  ∃ before later, keys = before ++ fault.key :: later ∧ before.length = fault.index ∧
    fault.key ∈ before ∧ before.getLast? ≠ some fault.key

/-- What a check of keys says: they stand together, or it stops at one that does not, after others
that do. -/
inductive KeysChecked (keys : List Key) : Option (Reappearance Key) → Prop
  | passed (h : Contiguous keys) : KeysChecked keys none
  | stopped {before later : List Key} {key : Key} (heq : keys = before ++ key :: later)
    (hbefore : Contiguous before) (hmem : key ∈ before) (hlast : before.getLast? ≠ some key) :
    KeysChecked keys (some ⟨before.length, key⟩)

section Check

variable [BEq Key] [LawfulBEq Key]

-- The keys before are taken in.  They stand together, the last of them is open, and the open one
-- and the closed ones are all of them.
theorem keysChecked_reappearanceFrom? (keys : List Key) {before closed : List Key}
    (hbefore : Contiguous before)
    (hseen : ∀ k, k ∈ before ↔ k ∈ closed ∨ before.getLast? = some k) :
    KeysChecked (before ++ keys)
      (reappearanceFrom? before.length closed before.getLast? keys) := by
  induction keys generalizing before closed with
  | nil => exact .passed (by rwa [List.append_nil])
  | cons key keys ih =>
    -- What is said when this key is taken in, too.
    have hnext {nextClosed : List Key} (htogether : key ∈ before → before.getLast? = some key)
        (hall : ∀ k, k ∈ before ++ [key] ↔ k ∈ nextClosed ∨ some key = some k) :
        KeysChecked (before ++ key :: keys)
          (reappearanceFrom? (before.length + 1) nextClosed (some key) keys) := by
      have hchecked := ih (contiguous_concat_iff.mpr ⟨hbefore, htogether⟩)
        (by rwa [List.getLast?_concat])
      rwa [List.append_assoc, List.length_append, List.getLast?_concat] at hchecked
    rw [reappearanceFrom?]
    by_cases hopen : before.getLast? = some key
    · rw [if_pos (by rw [hopen, BEq.refl]), hopen]
      refine hnext (fun _ => hopen) fun k => ?_
      rw [List.mem_append, hseen, hopen, List.mem_singleton, or_assoc]
      simp [eq_comm]
    · rw [if_neg (by simpa using hopen)]
      by_cases hclosed : key ∈ closed
      · rw [if_pos (by simpa using hclosed)]
        exact .stopped rfl hbefore ((hseen key).mpr (.inl hclosed)) hopen
      · rw [if_neg (by simpa using hclosed)]
        refine hnext (fun hmem => absurd ((hseen key).mp hmem) (by simp [hclosed, hopen]))
          fun k => ?_
        rw [List.mem_append, hseen, List.mem_append, Option.mem_toList, List.mem_singleton]
        simp [eq_comm]

theorem keysChecked_reappearance? (keys : List Key) : KeysChecked keys (reappearance? keys) :=
  keysChecked_reappearanceFrom? keys contiguous_nil (by simp)

end Check

/-- A key that reappears has another one between its places. -/
theorem Reappearance.IsIn.not_contiguous {fault : Reappearance Key} {keys : List Key}
    (h : fault.IsIn keys) : ¬Contiguous (keys.take (fault.index + 1)) := by
  obtain ⟨before, later, rfl, hindex, hmem, hlast⟩ := h
  rw [← hindex, List.take_length_add_append]
  exact fun h => hlast ((contiguous_concat_iff.mp h).2 hmem)

variable {keys : List Key} {fault? : Option (Reappearance Key)}

/-- The check passes for keys that stand together. -/
theorem KeysChecked.eq_none_iff (h : KeysChecked keys fault?) :
    fault? = none ↔ Contiguous keys := by
  cases h with
  | passed h => exact iff_of_true rfl h
  | @stopped before later key heq _ hmem hlast =>
    have hreappears : Reappearance.IsIn ⟨before.length, key⟩ keys :=
      ⟨before, later, heq, rfl, hmem, hlast⟩
    exact iff_of_false nofun fun h =>
      hreappears.not_contiguous (h.of_sublist (List.take_sublist _ _))

/-- The fault that it names is the first there is. -/
theorem KeysChecked.firstOf (h : KeysChecked keys fault?) :
    FirstOf (fun fault => fault.IsIn keys) Reappearance.index fault? := by
  cases h with
  | passed h =>
    exact .none fun fault hfault => hfault.not_contiguous (h.of_sublist (List.take_sublist _ _))
  | @stopped before later key heq hbefore hmem hlast =>
    refine .some ⟨before, later, heq, rfl, hmem, hlast⟩ fun other hother => ?_
    by_contra hless
    have hpart : keys.take (other.index + 1) <+: before := by
      rw [heq, List.take_append_of_le_length (Nat.lt_of_not_le hless)]
      exact List.take_prefix _ _
    exact hother.not_contiguous (hbefore.of_sublist hpart.sublist)

end Keys

/-! ## Values that descend -/

/-- At its index stands its left value, and next to it the right one, which is less. -/
def Descent.IsIn (fault : Descent) (values : List Int) : Prop :=
  ∃ before later, values = before ++ fault.left :: fault.right :: later ∧
    before.length = fault.index ∧ fault.right < fault.left

/-- What a check of values says: they rise, or it stops at two that do not, after others that do. -/
inductive ValuesChecked (values : List Int) : Option Descent → Prop
  | passed (h : values.Pairwise (· ≤ ·)) : ValuesChecked values none
  | stopped {before later : List Int} {left right : Int}
    (heq : values = before ++ left :: right :: later)
    (hbefore : (before ++ [left]).Pairwise (· ≤ ·)) (hless : right < left) :
    ValuesChecked values (some ⟨before.length, left, right⟩)

-- The values before are taken in, and so is the one that the next is compared with.
theorem valuesChecked_descentFrom? (values : List Int) {before : List Int} {value : Int}
    (hbefore : (before ++ [value]).Pairwise (· ≤ ·)) :
    ValuesChecked (before ++ value :: values) (descentFrom? before.length (value :: values)) := by
  induction values generalizing before value with
  | nil => exact .passed hbefore
  | cons next values ih =>
    rw [descentFrom?]
    by_cases hle : value ≤ next
    · have hnext : (before ++ [value] ++ [next]).Pairwise (· ≤ ·) := by
        rw [← List.isChain_iff_pairwise] at hbefore ⊢
        exact List.isChain_append.mpr ⟨hbefore, List.isChain_singleton next, by simpa using hle⟩
      have hchecked := ih hnext
      rw [List.append_assoc, List.length_append] at hchecked
      rwa [if_pos hle]
    · rw [if_neg hle]
      exact .stopped rfl hbefore (Int.not_le.mp hle)

theorem valuesChecked_descent? (values : List Int) : ValuesChecked values (descent? values) := by
  cases values with
  | nil => exact .passed List.Pairwise.nil
  | cons value values =>
    have hone : ([] ++ [value] : List Int).Pairwise (· ≤ ·) := List.pairwise_singleton _ value
    exact valuesChecked_descentFrom? values hone

/-- A descent breaks the order of the values up to it. -/
theorem Descent.IsIn.not_pairwise {fault : Descent} {values : List Int} (h : fault.IsIn values) :
    ¬(values.take (fault.index + 2)).Pairwise (· ≤ ·) := by
  obtain ⟨before, later, rfl, hindex, hless⟩ := h
  rw [← hindex, List.take_length_add_append]
  intro hrising
  have hpair : [fault.left, fault.right].Pairwise (· ≤ ·) := (List.pairwise_append.mp hrising).2.1
  exact Int.not_le.mpr hless (List.pairwise_pair.mp hpair)

section Values

variable {values : List Int} {fault? : Option Descent}

/-- The check passes for values in order. -/
theorem ValuesChecked.eq_none_iff (h : ValuesChecked values fault?) :
    fault? = none ↔ values.Pairwise (· ≤ ·) := by
  cases h with
  | passed h => exact iff_of_true rfl h
  | @stopped before later left right heq _ hless =>
    have hdescends : Descent.IsIn ⟨before.length, left, right⟩ values :=
      ⟨before, later, heq, rfl, hless⟩
    exact iff_of_false nofun fun h => hdescends.not_pairwise (h.sublist (List.take_sublist _ _))

/-- The fault that it names is the first there is. -/
theorem ValuesChecked.firstOf (h : ValuesChecked values fault?) :
    FirstOf (fun fault => fault.IsIn values) Descent.index fault? := by
  cases h with
  | passed h =>
    exact .none fun fault hfault => hfault.not_pairwise (h.sublist (List.take_sublist _ _))
  | @stopped before later left right heq hbefore hless =>
    refine .some ⟨before, later, heq, rfl, hless⟩ fun other hother => ?_
    by_contra hearlier
    have hlength : other.index + 2 ≤ (before ++ [left]).length := by
      rw [List.length_append]
      exact Nat.succ_le_succ (Nat.lt_of_not_le hearlier)
    have hpart : values.take (other.index + 2) <+: before ++ [left] := by
      rw [heq, ← List.singleton_append, ← List.append_assoc, List.take_append_of_le_length hlength]
      exact List.take_prefix _ _
    exact hother.not_pairwise (hbefore.sublist hpart.sublist)

end Values

/-! ## Both checks -/

/-- The check of keys passes exactly when rows with these keys make as many documents as there are
keys, and so when no two of the documents have the same key, where documents keep it.  The check of
values passes exactly when no value is less than one before it.  A check that does not pass tells
the first fault. -/
theorem checks_tell_first_fault {Row : Type u} {Key : Type} {State : Type v} {Out : Type w}
    [BEq Key] [LawfulBEq Key] (shape : Shape Row Key State Out) (rows : List Row)
    (values : List Int) :
    (reappearance? (rows.map shape.key) = none ↔
        (shape.group rows).length = (rows.map shape.key).eraseDups.length) ∧
      (∀ keyOf : Out → Key, (∀ key document, shape.Makes key document → keyOf document = key) →
        (reappearance? (rows.map shape.key) = none ↔ ((shape.group rows).map keyOf).Nodup)) ∧
      FirstOf (fun fault => fault.IsIn (rows.map shape.key)) Reappearance.index
        (reappearance? (rows.map shape.key)) ∧
      (descent? values = none ↔ values.Pairwise (· ≤ ·)) ∧
      FirstOf (fun fault => fault.IsIn values) Descent.index (descent? values) := by
  have hkeys := keysChecked_reappearance? (rows.map shape.key)
  have hvalues := valuesChecked_descent? values
  refine ⟨?_, fun keyOf hkeyOf => ?_, hkeys.firstOf, hvalues.eq_none_iff, hvalues.firstOf⟩
  · rw [hkeys.eq_none_iff, shape.length_group_eq_iff]
  · rw [hkeys.eq_none_iff, Shape.map_group hkeyOf, shape.nodup_runKeys_iff]

/-- A parent that returns is told with its row, where it makes a second tree, and the first pair
that descends with its place. -/
theorem checks_of_parent_that_returns :
    let shape := treeShape .adjacent .anywhere
    let rows : List (TreeRow Nat) := [⟨3, some 8, none⟩, ⟨3, none, none⟩, ⟨1, none, none⟩,
      ⟨1, some 8, some 2⟩, ⟨3, some 8, none⟩, ⟨1, none, none⟩]
    ¬((shape.group rows).map Tree.parent).Nodup ∧
      FirstOf (fun fault => fault.IsIn [3, 3, 1, 1, 3, 1]) Reappearance.index (some ⟨4, 3⟩) ∧
      FirstOf (fun fault => fault.IsIn [-2, -2, 5, 4, 1]) Descent.index (some ⟨2, 5, 4⟩) := by
  intro shape rows
  obtain ⟨_, hparents, hkeys, _, hvalues⟩ := checks_tell_first_fault shape rows [-2, -2, 5, 4, 1]
  refine ⟨mt (hparents Tree.parent fun _ _ => parent_of_makes).mpr (by decide), ?_, ?_⟩
  · rwa [show reappearance? (rows.map shape.key) = some ⟨4, 3⟩ by decide] at hkeys
  · rwa [show descent? [-2, -2, 5, 4, 1] = some ⟨2, 5, 4⟩ by decide] at hvalues

end Daybook.Fixture
