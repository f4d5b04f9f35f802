import Daybook.Text.Split
import Mathlib.Data.List.TakeWhile

/-!
# Trimmed texts

What trimming leaves of a text, told by what it takes away: blanks at both ends, as many as there
are.
-/

namespace Daybook.Text

/-- The second text is the first one less the blanks at its ends. -/
structure Trimmed (s t : List Char) : Prop where
  parts : ∃ before after, s = before ++ t ++ after ∧ (∀ c ∈ before, isBlank c) ∧
    ∀ c ∈ after, isBlank c
  head : ∀ c ∈ t.head?, isBlank c = false
  last : ∀ c ∈ t.getLast?, isBlank c = false

variable {s t before after : List Char}

/-! ## One end -/

/-- Only blanks are taken off the front. -/
theorem exists_append_trimStart (s : List Char) :
    ∃ before, s = before ++ trimStart s ∧ ∀ c ∈ before, isBlank c :=
  ⟨s.takeWhile isBlank, List.takeWhile_append_dropWhile.symm, fun _ => List.mem_takeWhile_imp⟩

/-- All blanks are taken off the front. -/
theorem isBlank_of_head?_trimStart (s : List Char) :
    ∀ c ∈ (trimStart s).head?, isBlank c = false := by
  induction s with
  | nil => simp
  | cons d s ih =>
    cases hd : isBlank d with
    | true => rwa [trimStart_cons_of_isBlank hd]
    | false =>
      rw [trimStart_cons_of_not_isBlank hd]
      rintro _ ⟨⟩
      exact hd

theorem trimStart_append (h : ∀ c ∈ before, isBlank c) (s : List Char) :
    trimStart (before ++ s) = trimStart s :=
  List.dropWhile_append_of_pos h

theorem exists_trimEnd_append (s : List Char) :
    ∃ after, s = trimEnd s ++ after ∧ ∀ c ∈ after, isBlank c := by
  obtain ⟨before, heq, hbefore⟩ := exists_append_trimStart s.reverse
  refine ⟨before.reverse, ?_, fun c hc => hbefore c (List.mem_reverse.mp hc)⟩
  rw [trimEnd, ← List.reverse_append, ← heq, List.reverse_reverse]

theorem isBlank_of_getLast?_trimEnd (s : List Char) :
    ∀ c ∈ (trimEnd s).getLast?, isBlank c = false := by
  rw [trimEnd, List.getLast?_reverse]
  exact isBlank_of_head?_trimStart s.reverse

theorem trimEnd_append (h : ∀ c ∈ after, isBlank c) (s : List Char) :
    trimEnd (s ++ after) = trimEnd s := by
  have hreverse : ∀ c ∈ after.reverse, isBlank c := fun c hc => h c (List.mem_reverse.mp hc)
  rw [trimEnd, List.reverse_append, trimStart_append hreverse, ← trimEnd]

/-! ## Both ends -/

theorem trimmed_self (head : ∀ c ∈ s.head?, isBlank c = false)
    (last : ∀ c ∈ s.getLast?, isBlank c = false) : Trimmed s s where
  parts := ⟨[], [], by simp, nofun, nofun⟩
  head := head
  last := last

/-- Trimming leaves the text without the blanks on both sides of it. -/
theorem trimmed_trim (s : List Char) : Trimmed s (trim s) := by
  obtain ⟨before, hstart, hbefore⟩ := exists_append_trimStart s
  obtain ⟨after, hend, hafter⟩ := exists_trimEnd_append (trimStart s)
  refine ⟨⟨before, after, ?_, hbefore, hafter⟩, fun c hc => ?_, isBlank_of_getLast?_trimEnd _⟩
  · rw [trim, List.append_assoc, ← hend, ← hstart]
  · have hhead : c ∈ (trimStart s).head? := by
      rw [hend, List.head?_append, show (trimEnd (trimStart s)).head? = some c from hc]
      rfl
    exact isBlank_of_head?_trimStart s c hhead

-- With nothing between them, the blanks before and after are one run.
theorem Trimmed.trim_eq (h : Trimmed s t) : trim s = t := by
  obtain ⟨before, after, rfl, hbefore, hafter⟩ := h.parts
  rw [trim, List.append_assoc, trimStart_append hbefore]
  cases t with
  | nil =>
    have hnil : trimStart (after ++ []) = [] := by rw [trimStart_append hafter, trimStart_nil]
    rw [List.nil_append, ← List.append_nil after, hnil, trimEnd_nil]
  | cons c t =>
    have htrim := trim_eq_self h.head h.last
    rw [trim, trimStart_eq_self h.head] at htrim
    rw [List.cons_append, trimStart_cons_of_not_isBlank (h.head c rfl), ← List.cons_append,
      trimEnd_append hafter, htrim]

/-- A text is trimmed to one text only. -/
theorem trim_eq_iff : trim s = t ↔ Trimmed s t :=
  ⟨fun h => h ▸ trimmed_trim s, Trimmed.trim_eq⟩

end Daybook.Text
