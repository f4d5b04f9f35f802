import Daybook.Proofs.Grouping.Joined
import Mathlib.Data.List.Induction
import Mathlib.Data.List.Nodup

/-!
# Rows that stand together

Where the rows of every key stand together, each key has one run, which holds all its rows.  So a
cursor gives exactly one document for each key.
-/

namespace Daybook

universe u

variable {α : Type u} [BEq α] [LawfulBEq α] {as bs : List α} {a : α}

/-! ## Distinct elements of a list

The elements of a list without those that came before, in the order in which they first come.
-/

theorem eraseDups_concat_of_mem (h : a ∈ as) : (as ++ [a]).eraseDups = as.eraseDups := by
  rw [List.eraseDups_append, List.removeAll, List.filter_cons_of_neg (by simpa using h)]
  exact List.append_nil _

theorem eraseDups_concat_of_notMem (h : a ∉ as) :
    (as ++ [a]).eraseDups = as.eraseDups ++ [a] := by
  rw [List.eraseDups_append, List.removeAll, List.filter_cons_of_pos (by simpa using h)]
  rfl

-- The elements are added at the end, since that is where a new one is put.
theorem nodup_eraseDups (as : List α) : as.eraseDups.Nodup := by
  induction as using List.reverseRecOn with
  | nil => exact List.nodup_nil
  | append_singleton as a ih =>
    by_cases h : a ∈ as
    · rwa [eraseDups_concat_of_mem h]
    · rw [eraseDups_concat_of_notMem h, List.nodup_append]
      refine ⟨ih, List.nodup_singleton a, fun other hother last hlast => ?_⟩
      rw [List.mem_singleton.mp hlast]
      exact fun heq => h (heq ▸ List.mem_eraseDups.mp hother)

theorem eraseDups_sublist (as : List α) : as.eraseDups.Sublist as := by
  induction as using List.reverseRecOn with
  | nil => exact List.Sublist.slnil
  | append_singleton as a ih =>
    by_cases h : a ∈ as
    · rw [eraseDups_concat_of_mem h]
      exact ih.trans (List.sublist_append_left as [a])
    · rw [eraseDups_concat_of_notMem h]
      exact ih.append_right [a]

-- A list without repetition is as long as any list of the same elements when that has lost its own.
theorem nodup_iff_length_eq_eraseDups (h : ∀ a, a ∈ as ↔ a ∈ bs) :
    as.Nodup ↔ as.length = bs.eraseDups.length := by
  have hmem (a : α) : a ∈ as.eraseDups ↔ a ∈ bs.eraseDups := by
    rw [List.mem_eraseDups, List.mem_eraseDups, h]
  have hperm : as.eraseDups.Perm bs.eraseDups :=
    (List.perm_ext_iff_of_nodup (nodup_eraseDups as) (nodup_eraseDups bs)).mpr hmem
  rw [← hperm.length_eq]
  constructor
  · intro hnodup
    have hself : as.eraseDups.Perm as :=
      (List.perm_ext_iff_of_nodup (nodup_eraseDups as) hnodup).mpr fun a => List.mem_eraseDups
    exact hself.length_eq.symm
  · intro hlength
    rw [← (eraseDups_sublist as).eq_of_length hlength.symm]
    exact nodup_eraseDups as

end Daybook

namespace Daybook.Grouping

universe u v w x

variable {Row : Type u} {Key : Type v} {State : Type w} {Out : Type x}

/-! ## Rows and their keys -/

/-- Nothing stands between two equal keys but that key itself. -/
def Contiguous (keys : List Key) : Prop := ∀ a b, [a, b, a].Sublist keys → b = a

instance [DecidableEq Key] (keys : List Key) : Decidable (Contiguous keys) :=
  decidable_of_iff (∀ a ∈ keys, ∀ b ∈ keys, [a, b, a].Sublist keys → b = a)
    ⟨fun h a b hsub => h a (hsub.mem List.mem_cons_self) b
        (hsub.mem (List.mem_cons_of_mem a List.mem_cons_self)) hsub,
      fun h a _ b _ => h a b⟩

theorem contiguous_nil : Contiguous ([] : List Key) :=
  fun _ _ hsub => absurd (List.sublist_nil.mp hsub) nofun

namespace Contiguous

theorem of_forall_eq {key : Key} {keys : List Key} (h : ∀ k ∈ keys, k = key) :
    Contiguous keys := by
  intro a b hsub
  rw [h a (hsub.mem (by simp)), h b (hsub.mem (by simp))]

-- Between two equal keys in rising order there is room for that key only.
theorem of_pairwise {le : Key → Key → Prop} [Std.Antisymm le] {keys : List Key}
    (h : keys.Pairwise le) : Contiguous keys := by
  intro a b hsub
  obtain ⟨ha, hb⟩ := List.pairwise_cons.mp (h.sublist hsub)
  have hab : le a b := ha b List.mem_cons_self
  have hba : le b a := List.pairwise_pair.mp hb
  exact Std.Antisymm.antisymm b a hba hab

/-- Keys that stand together do so among fewer. -/
theorem of_sublist {keys fewer : List Key} (h : Contiguous keys) (hsublist : fewer.Sublist keys) :
    Contiguous fewer := fun a b hsub => h a b (hsub.trans hsublist)

theorem of_cons {a : Key} {keys : List Key} (h : Contiguous (a :: keys)) : Contiguous keys :=
  fun b c hsub => h b c (hsub.cons a)

/-- Keys stand together if their images under an injective map do. -/
theorem of_map {Image : Type u} {f : Key → Image} {keys : List Key} (h : Contiguous (keys.map f))
    (hinjective : Function.Injective f) : Contiguous keys :=
  fun a b hsub => hinjective (h (f a) (f b) (hsub.map f))

theorem notMem_of_ne {a b : Key} {keys : List Key} (h : Contiguous (a :: b :: keys))
    (hne : b ≠ a) : a ∉ b :: keys := by
  intro hmem
  rcases List.mem_cons.mp hmem with heq | hlater
  · exact hne heq.symm
  · exact hne (h a b (((List.singleton_sublist.mpr hlater).cons_cons b).cons_cons a))

end Contiguous

/-! ### One more key -/

/-- One more key in front keeps keys together if it is new or the same as the first. -/
theorem contiguous_cons_iff {key : Key} {keys : List Key} :
    Contiguous (key :: keys) ↔ Contiguous keys ∧ (key ∈ keys → keys.head? = some key) := by
  constructor
  · intro h
    refine ⟨h.of_cons, fun hmem => ?_⟩
    obtain ⟨next, later, rfl⟩ := List.exists_cons_of_ne_nil (List.ne_nil_of_mem hmem)
    by_contra hnext
    exact h.notMem_of_ne (fun heq => hnext (congrArg some heq)) hmem
  · intro ⟨hkeys, hhead⟩ a b hsub
    cases hsub with
    | cons _ hsub => exact hkeys a b hsub
    | cons_cons _ hsub =>
      have hmem : key ∈ keys := hsub.mem (List.mem_cons_of_mem b List.mem_cons_self)
      obtain ⟨later, rfl⟩ := List.head?_eq_some_iff.mp (hhead hmem)
      cases hsub with
      | cons _ hsub => exact hkeys key b (hsub.cons_cons key)
      | cons_cons _ _ => rfl

theorem contiguous_reverse_iff {keys : List Key} : Contiguous keys.reverse ↔ Contiguous keys := by
  have hreverse {keys : List Key} (h : Contiguous keys) : Contiguous keys.reverse := fun a b hsub =>
    h a b (List.reverse_sublist.mp hsub)
  exact ⟨fun h => keys.reverse_reverse ▸ hreverse h, hreverse⟩

/-- One more key at the end keeps keys together if it is new or the same as the last. -/
theorem contiguous_concat_iff {key : Key} {keys : List Key} :
    Contiguous (keys ++ [key]) ↔ Contiguous keys ∧ (key ∈ keys → keys.getLast? = some key) := by
  rw [← contiguous_reverse_iff, List.reverse_concat', contiguous_cons_iff, contiguous_reverse_iff,
    List.mem_reverse, List.head?_reverse]

/-! ### Rows by key -/

section Gathered

variable [BEq Key] (key : Row → Key)

def gathered (rows : List Row) (keys : List Key) : List Row :=
  keys.flatMap fun k => rows.filter fun row => key row == k

variable [LawfulBEq Key]

theorem gathered_cons_of_notMem {row : Row} {keys : List Key} (h : key row ∉ keys)
    (rows : List Row) : gathered key (row :: rows) keys = gathered key rows keys := by
  apply List.flatMap_congr
  intro k hk
  have hne : key row ≠ k := fun heq => h (heq ▸ hk)
  rw [List.filter_cons_of_neg (by simpa using hne)]

-- The row joins the run that follows it.
theorem gathered_cons_of_head {row : Row} {rows : List Row} {keys : List Key}
    (h : key row ∉ keys) :
    gathered key (row :: rows) (key row :: keys) = row :: gathered key rows (key row :: keys) := by
  have hlater := gathered_cons_of_notMem key h rows
  unfold gathered at hlater ⊢
  rw [List.flatMap_cons, List.flatMap_cons, hlater, List.filter_cons_of_pos (by simp),
    List.cons_append]

-- The row is a run of its own, as its key never comes back.
theorem gathered_cons_of_new {row : Row} {rows : List Row} {keys : List Key}
    (h : key row ∉ keys) (hnew : key row ∉ rows.map key) :
    gathered key (row :: rows) (key row :: keys) = row :: gathered key rows keys := by
  have hnone : (rows.filter fun other => key other == key row) = [] := by
    rw [List.filter_eq_nil_iff]
    intro other hother heq
    exact hnew (eq_of_beq heq ▸ List.mem_map_of_mem hother)
  rw [gathered_cons_of_head key h, gathered, List.flatMap_cons, hnone, List.nil_append, gathered]

end Gathered

-- The induction is on the rows; the first key is kept track of, since the next row either has it or
-- starts a key that has not been seen.
theorem Contiguous.exists_gathered_eq [BEq Key] [LawfulBEq Key] {key : Row → Key}
    {rows : List Row} (h : Contiguous (rows.map key)) :
    ∃ keys : List Key, keys.Nodup ∧ keys.head? = (rows.map key).head? ∧
      (∀ k, k ∈ keys ↔ k ∈ rows.map key) ∧ gathered key rows keys = rows := by
  induction rows with
  | nil => exact ⟨[], List.nodup_nil, rfl, fun k => Iff.rfl, rfl⟩
  | cons row rows ih =>
    obtain ⟨keys, hnodup, hhead, hmem, hrows⟩ := ih h.of_cons
    -- Either the row joins the first run of the others or its key is new among them.
    by_cases hsame : (rows.map key).head? = some (key row)
    · obtain ⟨later, rfl⟩ : ∃ later, keys = key row :: later := by
        rw [hsame] at hhead
        exact List.head?_eq_some_iff.mp hhead
      have hknown : key row ∈ rows.map key := List.mem_of_mem_head? hsame
      refine ⟨key row :: later, hnodup, rfl, fun k => ?_, ?_⟩
      · rw [hmem, List.map_cons, List.mem_cons, or_iff_right_of_imp]
        rintro rfl
        exact hknown
      · rw [gathered_cons_of_head key (List.nodup_cons.mp hnodup).1, hrows]
    · have hnew : key row ∉ rows.map key := by
        cases rows with
        | nil => exact List.not_mem_nil
        | cons next rest =>
          apply h.notMem_of_ne
          intro heq
          exact hsame (congrArg some heq)
      have hfresh : key row ∉ keys := fun hk => hnew ((hmem _).mp hk)
      refine ⟨key row :: keys, List.nodup_cons.mpr ⟨hfresh, hnodup⟩, rfl, fun k => ?_, ?_⟩
      · rw [List.mem_cons, hmem, List.map_cons, List.mem_cons]
      · rw [gathered_cons_of_new key hfresh hnew, hrows]

theorem sublist_map_gathered [BEq Key] [LawfulBEq Key] {key : Row → Key} {rows : List Row}
    {keys : List Key} (h : ∀ k ∈ keys, k ∈ rows.map key) :
    keys.Sublist ((gathered key rows keys).map key) := by
  induction keys with
  | nil => exact List.Sublist.slnil
  | cons k keys ih =>
    obtain ⟨row, hrow, rfl⟩ := List.mem_map.mp (h k List.mem_cons_self)
    have hfirst : [key row].Sublist ((rows.filter fun other => key other == key row).map key) :=
      List.singleton_sublist.mpr (List.mem_map_of_mem (List.mem_filter.mpr ⟨hrow, BEq.refl _⟩))
    rw [gathered, List.flatMap_cons, List.map_append]
    exact hfirst.append (ih fun other hother => h other (List.mem_cons_of_mem _ hother))

/-- Where the rows of every key stand together, there is one run for each key, in the order in which
the keys come, and it holds all rows of its key. -/
theorem Shape.exists_runs_of_contiguous [BEq Key] [LawfulBEq Key]
    {shape : Shape Row Key State Out} {rows : List Row} (h : Contiguous (rows.map shape.key)) :
    ∃ keys : List Key, keys.Nodup ∧ (∀ k, k ∈ keys ↔ k ∈ rows.map shape.key) ∧
      keys.Sublist (rows.map shape.key) ∧
      shape.runs rows = keys.map fun k => rows.filter fun row => shape.key row == k := by
  obtain ⟨keys, hnodup, -, hmem, hrows⟩ := h.exists_gathered_eq
  have hsublist := sublist_map_gathered fun k hk => (hmem k).mp hk
  rw [hrows] at hsublist
  refine ⟨keys, hnodup, hmem, hsublist, ?_⟩
  rw [← runs_flatMap id ?_ ?_ (List.Pairwise.isChain hnodup), ← gathered, hrows]
  · intro k hk hnone
    obtain ⟨row, hrow, rfl⟩ := List.mem_map.mp ((hmem k).mp hk)
    exact List.filter_eq_nil_iff.mp hnone row hrow (BEq.refl _)
  · intro k _ row hrow
    exact eq_of_beq (List.mem_filter.mp hrow).2

/-- Where the rows of every key stand together, a cursor gives one document for each key, made from
all its rows. -/
theorem Shape.iterates_of_contiguous [BEq Key] [LawfulBEq Key] {shape : Shape Row Key State Out}
    {rows : List Row} (h : Contiguous (rows.map shape.key)) :
    ∃ (keys : List Key) (documents : List Out),
      keys.Nodup ∧ (∀ k, k ∈ keys ↔ k ∈ rows.map shape.key) ∧ shape.Iterates rows documents ∧
      documents.map some =
        keys.map fun k => shape.runDocument? (rows.filter fun row => shape.key row == k) := by
  obtain ⟨keys, hnodup, hmem, -, hruns⟩ := shape.exists_runs_of_contiguous h
  refine ⟨keys, shape.group rows, hnodup, hmem, shape.iterates_group rows, ?_⟩
  rw [group_map_some, hruns, List.map_map]
  rfl

end Daybook.Grouping
