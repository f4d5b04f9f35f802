import Daybook.Listing.Statement
import Mathlib.Data.List.Infix

/-!
# Pattern filters

A pattern filter looks for its value as it stands, wherever it may be in a text.  Nothing in the
value has the meaning that a pattern gives to some characters.
-/

namespace Daybook.Sql

/-! ## What LIKE takes for a match

A percent sign stands for any text, an underscore for any one character, and a backslash takes away
the meaning of the character after it.
-/

inductive PatternItem
  | anyText
  | anyChar
  | exactly (c : Char)
deriving DecidableEq, Repr

/-- The items of a pattern.  A pattern that ends in the middle of an escape has none. -/
def patternItems? : List Char → Option (List PatternItem)
  | [] => some []
  | ['\\'] => none
  | '\\' :: c :: pattern => (patternItems? pattern).map (.exactly c :: ·)
  | '%' :: pattern => (patternItems? pattern).map (.anyText :: ·)
  | '_' :: pattern => (patternItems? pattern).map (.anyChar :: ·)
  | c :: pattern => (patternItems? pattern).map (.exactly c :: ·)

/-- The whole text is what the items stand for, one after the other. -/
def fits : List PatternItem → List Char → Bool
  | [], text => text.isEmpty
  | .anyText :: items, text => text.tails.any (fits items)
  | .anyChar :: _, [] => false
  | .anyChar :: items, _ :: text => fits items text
  | .exactly _ :: _, [] => false
  | .exactly c :: items, d :: text => c == d && fits items text

/-! ### Items -/

/-- The sign for any text fits any front part. -/
theorem fits_anyText_iff {items : List PatternItem} {text : List Char} :
    fits (.anyText :: items) text ↔ ∃ front back, text = front ++ back ∧ fits items back := by
  rw [fits, List.any_eq_true]
  constructor
  · rintro ⟨back, hback, hfits⟩
    obtain ⟨front, rfl⟩ := (List.mem_tails _ _).mp hback
    exact ⟨front, back, rfl, hfits⟩
  · rintro ⟨front, back, rfl, hfits⟩
    exact ⟨back, (List.mem_tails _ _).mpr (List.suffix_append front back), hfits⟩

-- Characters that stand for themselves have to come first, in order.
theorem fits_exactly_append_iff {word : List Char} {items : List PatternItem} {text : List Char} :
    fits (word.map .exactly ++ items) text ↔ ∃ rest, text = word ++ rest ∧ fits items rest := by
  induction word generalizing text with
  | nil => simp
  | cons c word ih =>
    rw [List.map_cons, List.cons_append]
    cases text with
    | nil => simp [fits]
    | cons d text =>
      rw [fits, Bool.and_eq_true, beq_iff_eq, ih]
      constructor
      · rintro ⟨rfl, rest, rfl, hfits⟩
        exact ⟨rest, rfl, hfits⟩
      · rintro ⟨rest, htext, hfits⟩
        obtain ⟨rfl, rfl⟩ := List.cons.inj htext
        exact ⟨rfl, rest, rfl, hfits⟩

theorem fits_anyText_nil (text : List Char) : fits [.anyText] text :=
  fits_anyText_iff.mpr ⟨text, [], (List.append_nil text).symm, rfl⟩

-- A word with any text before and after it is looked for wherever it may stand.
theorem fits_around_iff {word text : List Char} :
    fits (.anyText :: (word.map .exactly ++ [.anyText])) text ↔ word <:+: text := by
  rw [fits_anyText_iff]
  constructor
  · rintro ⟨front, back, rfl, hfits⟩
    obtain ⟨rest, rfl, -⟩ := fits_exactly_append_iff.mp hfits
    exact ⟨front, rest, List.append_assoc front word rest⟩
  · rintro ⟨front, rest, rfl⟩
    exact ⟨front, word ++ rest, List.append_assoc front word rest,
      fits_exactly_append_iff.mpr ⟨rest, rfl, fits_anyText_nil rest⟩⟩

/-! ### Escapes -/

theorem patternItems?_escape (c : Char) (pattern : List Char) :
    patternItems? ('\\' :: c :: pattern) = (patternItems? pattern).map (.exactly c :: ·) := rfl

theorem patternItems?_plain {c : Char} (hescape : c ≠ '\\') (htext : c ≠ '%') (hchar : c ≠ '_')
    (pattern : List Char) :
    patternItems? (c :: pattern) = (patternItems? pattern).map (.exactly c :: ·) := by
  rw [patternItems?]
  · exact fun h => absurd h hescape
  · exact fun _ _ h => absurd h hescape
  · exact htext
  · exact hchar

end Daybook.Sql

namespace Daybook.Listing

/-! ## Patterns of values -/

/-! ### Escaping -/

def escapeEvery (special : Char) (s : List Char) : List Char :=
  s.flatMap fun c => if c = special then ['\\', c] else [c]

/-- One character after the other comes to the same as all of them at once, since the backslashes
of the value are done before any other is written. -/
theorem escapeEvery_escapeEvery_escapeEvery (s : List Char) :
    escapeEvery '_' (escapeEvery '%' (escapeEvery '\\' s)) = escapePattern s := by
  simp only [escapeEvery, escapePattern, List.flatMap_assoc]
  apply List.flatMap_congr
  intro c _
  by_cases hescape : c = '\\'
  · subst hescape
    rfl
  · by_cases htext : c = '%'
    · subst htext
      rfl
    · by_cases hchar : c = '_'
      · subst hchar
        rfl
      · simp [hescape, htext, hchar]

-- Every character of the value stands for itself, whatever follows.
theorem patternItems?_escapePattern_append (s rest : List Char) :
    Sql.patternItems? (escapePattern s ++ rest) =
      (Sql.patternItems? rest).map (s.map .exactly ++ ·) := by
  induction s with
  | nil => simp [escapePattern]
  | cons c s ih =>
    have hone : Sql.patternItems? (escapePattern (c :: s) ++ rest) =
        (Sql.patternItems? (escapePattern s ++ rest)).map (.exactly c :: ·) := by
      rw [escapePattern, List.flatMap_cons, ← escapePattern, List.append_assoc]
      by_cases hspecial : c = '\\' ∨ c = '%' ∨ c = '_'
      · rw [if_pos hspecial]
        exact Sql.patternItems?_escape c _
      · rw [if_neg hspecial]
        obtain ⟨hescape, htext, hchar⟩ := by simpa only [not_or] using hspecial
        exact Sql.patternItems?_plain hescape htext hchar _
    rw [hone, ih, Option.map_map]
    rfl

/-- The pattern is the escaped value between two signs for any text. -/
theorem patternItems?_containsPattern (value : String) :
    Sql.patternItems? (containsPattern value).toList =
      some (.anyText :: (value.toList.map .exactly ++ [.anyText])) := by
  rw [containsPattern, String.toList_ofList, List.cons_append, Sql.patternItems?,
    patternItems?_escapePattern_append]
  rfl

/-- A pattern filter binds a pattern that can be read to its end, and that a text fits exactly if
the value of the filter occurs in it.  The pattern is the value between percent signs, with a
backslash put before every backslash, then before every percent sign, then before every
underscore. -/
theorem like_finds_value (field value : String) (others : List FieldValue) (column : Sql.Column) :
    ∃ (pattern : String) (items : List Sql.PatternItem),
      Filter.conditionOn ⟨field, .like, .text value :: others⟩ column =
        .ok (.compare column .like (.string (some pattern))) ∧
      pattern.toList =
        '%' :: escapeEvery '_' (escapeEvery '%' (escapeEvery '\\' value.toList)) ++ ['%'] ∧
      Sql.patternItems? pattern.toList = some items ∧
      ∀ text : String, Sql.fits items text.toList ↔ value.toList <:+: text.toList := by
  refine ⟨containsPattern value, _, rfl, ?_, patternItems?_containsPattern value,
    fun text => Sql.fits_around_iff⟩
  rw [escapeEvery_escapeEvery_escapeEvery, containsPattern, String.toList_ofList]

end Daybook.Listing
