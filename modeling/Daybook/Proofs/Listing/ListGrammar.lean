import Daybook.Listing.Field
import Daybook.Proofs.Except
import Daybook.Proofs.Text.Trim

/-!
# The grammar of values

Which texts are the value of a filter, and of which values, and the texts that lists are written as.
-/

namespace Daybook.Listing

/-! ## Reading by the grammar

A list is told by its parts alone: one pair of parentheses may stand around it, commas stand between
its elements, and an element that is all blank does not count.
-/

/-! ### Lists -/

/-- The second text is what stands in the parentheses around the first one, or all of a text that
has none around it. -/
inductive Unwrapped : List Char → List Char → Prop
  | wrapped (inner : List Char) : Unwrapped ('(' :: inner ++ [')']) inner
  | bare {s : List Char} (h : ∀ inner, s ≠ '(' :: inner ++ [')']) : Unwrapped s s

/-- The elements are what stands between the commas of a text. -/
structure CommaSeparated (s : List Char) (elements : List (List Char)) : Prop where
  ne_nil : elements ≠ []
  comma_notMem : ∀ element ∈ elements, ',' ∉ element
  eq : s = [','].intercalate elements

/-- The text lists these items: its elements without the blanks around them, less those of which
nothing is left. -/
inductive Lists (raw : List Char) : List (List Char) → Prop
  | intro {trimmed inner : List Char} {elements items : List (List Char)}
    (htrimmed : Text.Trimmed raw trimmed) (hunwrapped : Unwrapped trimmed inner)
    (hseparated : CommaSeparated inner elements)
    (hitems : List.Forall₂ Text.Trimmed elements items) :
    Lists raw (items.filter (· ≠ []))

/-- Taking off parentheses is what the grammar says. -/
theorem unwrapped_iff {s inner : List Char} :
    Unwrapped s inner ↔ ((Text.after? ['('] s).bind (Text.beforeLast? ')')).getD s = inner := by
  have hwrapped (content : List Char) :
      (Text.after? ['('] s).bind (Text.beforeLast? ')') = some content ↔
        s = '(' :: content ++ [')'] := by
    simp only [Option.bind_eq_some_iff, Text.after?_eq_some_iff, Text.beforeLast?_eq_some_iff,
      exists_eq_right]
    rfl
  constructor
  · rintro (_ | h)
    · rw [(hwrapped inner).mpr rfl, Option.getD_some]
    · have hnone : (Text.after? ['('] s).bind (Text.beforeLast? ')') = none :=
        Option.eq_none_iff_forall_ne_some.mpr fun content => mt (hwrapped content).mp (h content)
      rw [hnone, Option.getD_none]
  · rintro rfl
    cases hcontent : (Text.after? ['('] s).bind (Text.beforeLast? ')') with
    | none =>
      refine .bare fun content heq => ?_
      rw [(hwrapped content).mpr heq] at hcontent
      cases hcontent
    | some content =>
      rw [(hwrapped content).mp hcontent]
      exact .wrapped content

theorem commaSeparated_iff {s : List Char} {elements : List (List Char)} :
    CommaSeparated s elements ↔ Text.pieces ',' s = elements := by
  constructor
  · rintro ⟨hne, hcomma, rfl⟩
    exact Text.pieces_intercalate hne hcomma
  · rintro rfl
    exact ⟨Text.pieces_ne_nil ',' s, fun _ => Text.not_mem_of_mem_pieces,
      (Text.intercalate_pieces ',' s).symm⟩

theorem forall₂_trimmed_iff {elements items : List (List Char)} :
    List.Forall₂ Text.Trimmed elements items ↔ elements.map Text.trim = items := by
  rw [← List.forall₂_eq_eq_eq, List.forall₂_map_left_iff]
  simp only [Text.trim_eq_iff]

/-- The items of a text are those that the grammar reads in it. -/
theorem listItems_eq_iff {raw : List Char} {items : List (List Char)} :
    FieldKind.listItems raw = items ↔ Lists raw items := by
  constructor
  · rintro rfl
    exact .intro (Text.trimmed_trim raw) (unwrapped_iff.mpr rfl) (commaSeparated_iff.mpr rfl)
      (forall₂_trimmed_iff.mpr rfl)
  · rintro ⟨htrimmed, hunwrapped, hseparated, hitems⟩
    rw [FieldKind.listItems]
    simp only [htrimmed.trim_eq, unwrapped_iff.mp hunwrapped, commaSeparated_iff.mp hseparated,
      forall₂_trimmed_iff.mp hitems]

/-! ### Values of a filter -/

namespace FieldKind

variable {kind : FieldKind} {operator : Operator} {raw : List Char} {values : List FieldValue}

/-- The text says these values: one value as it stands, or each item of a list that has some. -/
inductive Reads (kind : FieldKind) (operator : Operator) (raw : List Char) :
    List FieldValue → Prop
  | single {value : FieldValue} (hsingle : operator.isList = false)
    (hread : kind.read? raw = some value) : Reads kind operator raw [value]
  | list {items : List (List Char)} {values : List FieldValue} (hlist : operator.isList = true)
    (hitems : Lists raw items) (hne : items ≠ [])
    (hread : List.Forall₂ (fun item value => kind.read? item = some value) items values) :
    Reads kind operator raw values

theorem mapM_read?_eq_some_iff {items : List (List Char)} : items.mapM kind.read? = some values ↔
    List.Forall₂ (fun item value => kind.read? item = some value) items values := by
  rw [mapM_eq_some_iff, ← List.forall₂_eq_eq_eq, List.forall₂_map_left_iff,
    List.forall₂_map_right_iff]

/-- Values are read just when the grammar has a reading with them. -/
theorem readAll?_eq_some_iff : kind.readAll? operator raw = some values ↔
    kind.Reads operator raw values := by
  rw [readAll?]
  constructor
  · intro h
    split at h
    · rename_i hlist
      split at h
      · cases h
      · rename_i hne
        exact .list hlist (listItems_eq_iff.mp rfl) hne (mapM_read?_eq_some_iff.mp h)
    · rename_i hsingle
      obtain ⟨value, hread, rfl⟩ := Option.map_eq_some_iff.mp h
      exact .single (Bool.not_eq_true _ ▸ hsingle) hread
  · rintro (⟨hsingle, hread⟩ | ⟨hlist, hitems, hne, hread⟩)
    · rw [hsingle, if_neg Bool.false_ne_true, hread, Option.map_some]
    · obtain ⟨item, rest, rfl⟩ := List.exists_cons_of_ne_nil hne
      rw [if_pos hlist, listItems_eq_iff.mpr hitems]
      exact mapM_read?_eq_some_iff.mpr hread

/-- No values are read just when it has none. -/
theorem readAll?_eq_none_iff : kind.readAll? operator raw = none ↔
    ∀ values, ¬kind.Reads operator raw values := by
  rw [Option.eq_none_iff_forall_ne_some]
  exact forall_congr' fun values => not_congr readAll?_eq_some_iff

end FieldKind

/-! ## Lists that were written

The values of a list are written with commas between, in parentheses or without.  Reading the list
finds the same items again, as long as none of them is empty, has a comma in it or a blank at an
end, and the list without parentheses does not look as if it had them.
-/

structure IsItem (s : List Char) : Prop where
  ne_nil : s ≠ []
  comma_notMem : ',' ∉ s
  head : ∀ c ∈ s.head?, Text.isBlank c = false
  last : ∀ c ∈ s.getLast?, Text.isBlank c = false

-- The ends are looked at by themselves, not by going through all characters that there are.
instance (s : List Char) : Decidable (IsItem s) :=
  decidable_of_iff
    (s ≠ [] ∧ ',' ∉ s ∧ s.head?.any Text.isBlank = false ∧ s.getLast?.any Text.isBlank = false)
    ⟨fun ⟨hne, hcomma, hhead, hlast⟩ =>
        ⟨hne, hcomma, (Option.any_eq_false _ _).mp hhead, (Option.any_eq_false _ _).mp hlast⟩,
      fun ⟨hne, hcomma, hhead, hlast⟩ =>
        ⟨hne, hcomma, (Option.any_eq_false _ _).mpr hhead, (Option.any_eq_false _ _).mpr hlast⟩⟩

def Parenthesized (s : List Char) : Prop := s.head? = some '(' ∧ s.getLast? = some ')'

instance (s : List Char) : Decidable (Parenthesized s) :=
  inferInstanceAs (Decidable (_ ∧ _))

/-- A text without commas and blanks is an item. -/
theorem IsItem.of_forall {s : List Char} (hne : s ≠ []) (hcomma : ',' ∉ s)
    (h : ∀ c ∈ s, Text.isBlank c = false) : IsItem s where
  ne_nil := hne
  comma_notMem := hcomma
  head c hc := h c (List.mem_of_mem_head? hc)
  last c hc := h c (List.mem_of_getLast? hc)

theorem IsItem.trimmed {s : List Char} (h : IsItem s) : Text.Trimmed s s :=
  Text.trimmed_self h.head h.last

variable {items : List (List Char)}

/-! ### Ends of a list -/

theorem exists_intercalate_eq_cons (hne : items ≠ []) (h : ∀ item ∈ items, IsItem item) :
    ∃ c s, [','].intercalate items = c :: s ∧ Text.isBlank c = false := by
  obtain ⟨item, rest, rfl⟩ := List.exists_cons_of_ne_nil hne
  have hitem := h item List.mem_cons_self
  obtain ⟨c, s, rfl⟩ := List.exists_cons_of_ne_nil hitem.ne_nil
  exact ⟨c, [','].intercalate (s :: rest), List.intercalate_cons_cons_left, hitem.head c rfl⟩

theorem isBlank_of_getLast?_intercalate (h : ∀ item ∈ items, IsItem item) :
    ∀ c ∈ ([','].intercalate items).getLast?, Text.isBlank c = false := by
  induction items with
  | nil => simp
  | cons item items ih =>
    cases items with
    | nil =>
      rw [List.intercalate_singleton]
      exact (h item List.mem_cons_self).last
    | cons next rest =>
      have hlater : ∀ other ∈ next :: rest, IsItem other := fun other hother =>
        h other (List.mem_cons_of_mem item hother)
      obtain ⟨c, s, heq, -⟩ := exists_intercalate_eq_cons (List.cons_ne_nil next rest) hlater
      have hends := ih hlater
      rw [heq] at hends
      rwa [List.intercalate_cons_cons, heq, List.getLast?_append, List.getLast?_cons,
        Option.some_or, ← List.getLast?_cons]

-- Blanks inside the items are kept, and there are none around them.
theorem trimmed_intercalate (hne : items ≠ []) (h : ∀ item ∈ items, IsItem item) :
    Text.Trimmed ([','].intercalate items) ([','].intercalate items) := by
  refine Text.trimmed_self ?_ (isBlank_of_getLast?_intercalate h)
  obtain ⟨c, s, heq, hc⟩ := exists_intercalate_eq_cons hne h
  rw [heq]
  rintro _ ⟨⟩
  exact hc

/-! ### Items of a list -/

theorem listItems_of_unwrapped {raw trimmed : List Char} (hne : items ≠ [])
    (h : ∀ item ∈ items, IsItem item) (htrimmed : Text.Trimmed raw trimmed)
    (hunwrapped : Unwrapped trimmed ([','].intercalate items)) :
    FieldKind.listItems raw = items := by
  have hkept : items.filter (· ≠ []) = items :=
    List.filter_eq_self.mpr fun item hitem => decide_eq_true (h item hitem).ne_nil
  have hitems : List.Forall₂ Text.Trimmed items items :=
    List.forall₂_same.mpr fun item hitem => (h item hitem).trimmed
  rw [listItems_eq_iff, ← hkept]
  exact .intro htrimmed hunwrapped ⟨hne, fun item hitem => (h item hitem).comma_notMem, rfl⟩ hitems

/-- Items in parentheses are read back. -/
theorem listItems_parenthesized (hne : items ≠ []) (h : ∀ item ∈ items, IsItem item) :
    FieldKind.listItems ('(' :: [','].intercalate items ++ [')']) = items := by
  refine listItems_of_unwrapped hne h (Text.trimmed_self ?_ ?_) (.wrapped _)
  · rintro _ ⟨⟩
    rfl
  · rw [List.getLast?_concat]
    rintro _ ⟨⟩
    rfl

/-- Without parentheses they are, unless they look as if they had some. -/
theorem listItems_bare (hne : items ≠ []) (h : ∀ item ∈ items, IsItem item)
    (hbare : ¬Parenthesized ([','].intercalate items)) :
    FieldKind.listItems ([','].intercalate items) = items := by
  refine listItems_of_unwrapped hne h (trimmed_intercalate hne h) (.bare fun inner heq => hbare ?_)
  rw [heq]
  exact ⟨rfl, List.getLast?_concat⟩

end Daybook.Listing
