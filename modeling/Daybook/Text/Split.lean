/-!
# Trimming and splitting

Every value that a request may surround with blanks is trimmed by one rule, and every text that is
put together from parts is taken apart again at its separators.
-/

namespace Daybook.Text

/-! ## Blank characters

The characters that carry the Unicode property White_Space, and trimming by them.
-/

-- The code points of the Unicode property White_Space, as inclusive ranges in rising order.
def blankRanges : List (Nat × Nat) :=
  [(0x09, 0x0D), (0x20, 0x20), (0x85, 0x85), (0xA0, 0xA0), (0x1680, 0x1680), (0x2000, 0x200A),
   (0x2028, 0x2029), (0x202F, 0x202F), (0x205F, 0x205F), (0x3000, 0x3000)]

def isBlank (c : Char) : Bool :=
  blankRanges.any fun (low, high) => low ≤ c.toNat && c.toNat ≤ high

def trimStart (s : List Char) : List Char :=
  s.dropWhile isBlank

def trimEnd (s : List Char) : List Char :=
  (trimStart s.reverse).reverse

def trim (s : List Char) : List Char :=
  trimEnd (trimStart s)

/-! ### What trimming leaves -/

theorem trimStart_cons_of_not_isBlank {c : Char} {s : List Char} (h : isBlank c = false) :
    trimStart (c :: s) = c :: s := by
  simp [trimStart, h]

theorem trimStart_cons_of_isBlank {c : Char} {s : List Char} (h : isBlank c = true) :
    trimStart (c :: s) = trimStart s := by
  simp [trimStart, h]

@[simp] theorem trimStart_nil : trimStart [] = [] := rfl

@[simp] theorem trimEnd_nil : trimEnd [] = [] := rfl

theorem trimStart_eq_self {s : List Char} (h : ∀ c ∈ s.head?, isBlank c = false) :
    trimStart s = s := by
  cases s with
  | nil => rfl
  | cons c s => exact trimStart_cons_of_not_isBlank (h c rfl)

-- A text that neither starts nor ends with a blank is left as it is.
theorem trim_eq_self {s : List Char} (hStart : ∀ c ∈ s.head?, isBlank c = false)
    (hEnd : ∀ c ∈ s.getLast?, isBlank c = false) : trim s = s := by
  rw [trim, trimStart_eq_self hStart, trimEnd, trimStart_eq_self, List.reverse_reverse]
  simpa using hEnd

-- A printed ASCII character is no blank.
theorem isBlank_of_lt {c : Char} (hlow : 0x20 < c.toNat) (hhigh : c.toNat < 0x7F) :
    isBlank c = false := by
  simp only [isBlank, blankRanges, List.any_cons, List.any_nil, Bool.or_false, Bool.or_eq_false_iff,
    Bool.and_eq_false_iff, decide_eq_false_iff_not]
  omega

/-! ## Splitting at a separator

`cut?` splits a text at the first separator; `pieces` splits it at every one, keeping empty pieces.
Joining the parts with the separator between them gives the text back.
-/

-- What stands before and after the first `sep`, or nothing when there is none.
def cut? (sep : Char) : List Char → Option (List Char × List Char)
  | [] => none
  | c :: s => if c = sep then some ([], s) else (cut? sep s).map fun (a, b) => (c :: a, b)

/-- The parts of a text between separators, empty ones included: one more than there are `sep`. -/
def pieces (sep : Char) : List Char → List (List Char)
  | [] => [[]]
  | c :: s =>
    if c = sep then [] :: pieces sep s
    else match pieces sep s with
      | [] => [[c]]
      | p :: ps => (c :: p) :: ps

def after? (lead : List Char) (s : List Char) : Option (List Char) :=
  if lead.isPrefixOf s then some (s.drop lead.length) else none

def beforeLast? (c : Char) (s : List Char) : Option (List Char) :=
  if s.getLast? = some c then some s.dropLast else none

/-! ### Putting the parts together again -/

/-- A text is cut at the first separator. -/
theorem cut?_eq_some_iff {sep : Char} {s a b : List Char} :
    cut? sep s = some (a, b) ↔ s = a ++ sep :: b ∧ sep ∉ a := by
  induction s generalizing a with
  | nil => simp [cut?]
  | cons c s ih =>
    by_cases h : c = sep
    · subst h
      cases a with
      | nil => simp [cut?]
      | cons d a => simp +contextual [cut?]
    · have hsep : ¬ sep = c := fun e => h e.symm
      simp only [cut?, if_neg h, Option.map_eq_some_iff, Prod.mk.injEq, Prod.exists]
      constructor
      · rintro ⟨a', b', hcut, rfl, rfl⟩
        obtain ⟨rfl, hmem⟩ := ih.mp hcut
        simp [hmem, hsep]
      · rintro ⟨hs, hmem⟩
        cases a with
        | nil => exact absurd (List.cons.inj hs).1 h
        | cons d a =>
          simp only [List.cons_append, List.cons.injEq] at hs
          exact ⟨a, b, ih.mpr ⟨hs.2, fun m => hmem (List.mem_cons_of_mem _ m)⟩, by simp [hs.1], rfl⟩

/-- Even the empty text is one piece. -/
theorem pieces_ne_nil (sep : Char) (s : List Char) : pieces sep s ≠ [] := by
  cases s with
  | nil => simp [pieces]
  | cons c s =>
    by_cases h : c = sep
    · simp [pieces, h]
    · simp only [pieces, if_neg h]
      split <;> simp

/-- No piece has a separator in it. -/
theorem not_mem_of_mem_pieces {sep : Char} {s p : List Char} (h : p ∈ pieces sep s) : sep ∉ p := by
  induction s generalizing p with
  | nil =>
    simp only [pieces, List.mem_singleton] at h
    simp [h]
  | cons c s ih =>
    by_cases hc : c = sep
    · simp only [pieces, if_pos hc, List.mem_cons] at h
      rcases h with rfl | h
      · simp
      · exact ih h
    · simp only [pieces, if_neg hc] at h
      cases hps : pieces sep s with
      | nil => exact absurd hps (pieces_ne_nil sep s)
      | cons q qs =>
        rw [hps] at h ih
        simp only [List.mem_cons] at h ih
        rcases h with rfl | h
        · simp [show ¬ sep = c from fun e => hc e.symm, ih (Or.inl rfl)]
        · exact ih (Or.inr h)

/-- The pieces with separators between them make the text. -/
theorem intercalate_pieces (sep : Char) (s : List Char) :
    [sep].intercalate (pieces sep s) = s := by
  induction s with
  | nil => rfl
  | cons c s ih =>
    cases hps : pieces sep s with
    | nil => exact absurd hps (pieces_ne_nil sep s)
    | cons q qs =>
      rw [hps] at ih
      by_cases hc : c = sep
      · rw [pieces, if_pos hc, hps, ← hc]
        rw [← hc] at ih
        simp [List.intercalate_cons_cons, ih]
      · rw [pieces, if_neg hc, hps]
        cases qs with
        | nil => simpa [List.intercalate_singleton] using ih
        | cons r rs =>
          simp only [List.intercalate_cons_cons] at ih ⊢
          simp [ih]

theorem pieces_of_notMem {sep : Char} {s : List Char} (h : sep ∉ s) : pieces sep s = [s] := by
  induction s with
  | nil => rfl
  | cons c s ih =>
    obtain ⟨hc, hs⟩ := not_or.mp (mt List.mem_cons.mpr h)
    rw [pieces, if_neg fun e => hc e.symm, ih hs]

/-- The first piece ends at the first separator. -/
theorem pieces_append_cons {sep : Char} {a : List Char} (h : sep ∉ a) (b : List Char) :
    pieces sep (a ++ sep :: b) = a :: pieces sep b := by
  induction a with
  | nil => rw [List.nil_append, pieces, if_pos rfl]
  | cons c a ih =>
    obtain ⟨hc, ha⟩ := not_or.mp (mt List.mem_cons.mpr h)
    rw [List.cons_append, pieces, if_neg fun e => hc e.symm, ih ha]

-- Items that were joined come apart where they were joined.
theorem pieces_intercalate {sep : Char} {items : List (List Char)} (hne : items ≠ [])
    (h : ∀ item ∈ items, sep ∉ item) : pieces sep ([sep].intercalate items) = items := by
  induction items with
  | nil => exact absurd rfl hne
  | cons item items ih =>
    have hitem := h item List.mem_cons_self
    cases items with
    | nil => rw [List.intercalate_singleton, pieces_of_notMem hitem]
    | cons next rest =>
      have hrest := ih (List.cons_ne_nil next rest) fun other hother =>
        h other (List.mem_cons_of_mem item hother)
      rw [List.intercalate_cons_cons, List.append_assoc, List.singleton_append,
        pieces_append_cons hitem, hrest]

/-- What comes after a lead is the rest of a text that starts with it. -/
theorem after?_eq_some_iff {lead s rest : List Char} :
    after? lead s = some rest ↔ s = lead ++ rest := by
  constructor
  · intro h
    simp only [after?, Option.ite_none_right_eq_some, Option.some.injEq] at h
    obtain ⟨t, rfl⟩ := List.isPrefixOf_iff_prefix.mp h.1
    simpa using h.2
  · rintro rfl
    simp [after?]

theorem beforeLast?_eq_some_iff {c : Char} {s front : List Char} :
    beforeLast? c s = some front ↔ s = front ++ [c] := by
  constructor
  · intro h
    simp only [beforeLast?, Option.ite_none_right_eq_some, Option.some.injEq] at h
    obtain ⟨hlast, rfl⟩ := h
    obtain ⟨t, rfl⟩ := List.getLast?_eq_some_iff.mp hlast
    simp
  · rintro rfl
    simp [beforeLast?]

end Daybook.Text
