import Daybook.Proofs.Except
import Daybook.Proofs.Json.Quoted
import Mathlib

/-!
# Strings of a text

Every string token of a text comes of a string that stands in the text, between quotes.  NUL is in
it only where its escape is.
-/

namespace Daybook.Json

/-! ## From tokens back to strings -/

theorem lt_of_hexDigit? {c : Char} {n : Nat} (h : hexDigit? c = some n) : c.toNat < 128 := by
  have hle {c d : Char} (h : c ≤ d) : c.toNat ≤ d.toNat := h
  unfold hexDigit? at h
  split at h
  · rename_i hdigit
    exact Nat.lt_of_le_of_lt (Char.isDigit_iff_toNat.mp hdigit).2 (by decide)
  · split at h
    · rename_i hsmall
      exact Nat.lt_of_le_of_lt (hle hsmall.2) (by decide)
    · split at h
      · rename_i hlarge
        exact Nat.lt_of_le_of_lt (hle hlarge.2) (by decide)
      · cases h

/-- No other character is read as a hexadecimal digit. -/
theorem hexDigit_of_hexDigit? {c : Char} {n : Nat} (h : hexDigit? c = some n) : HexDigit c n := by
  have hall : ∀ k < 128, ∀ n ∈ hexDigit? (Char.ofNat k),
      n < 16 ∧ (Char.ofNat k = n.digitChar ∨ Char.ofNat k = n.digitChar.toUpper) := by
    decide +kernel
  have hfits := hall c.toNat (lt_of_hexDigit? h) n
  rw [Char.ofNat_toNat] at hfits
  exact ⟨(hfits h).1, (hfits h).2⟩

theorem exists_of_hexUnit? {a b c d : Char} {code : Nat} (h : hexUnit? a b c d = some code) :
    ∃ i j k l, HexDigit a i ∧ HexDigit b j ∧ HexDigit c k ∧ HexDigit d l ∧
      code = ((i * 16 + j) * 16 + k) * 16 + l := by
  simp only [hexUnit?, bind, Option.bind_eq_some_iff] at h
  obtain ⟨i, ha, j, hb, k, hc, l, hd, heq⟩ := h
  exact ⟨i, j, k, l, hexDigit_of_hexDigit? ha, hexDigit_of_hexDigit? hb, hexDigit_of_hexDigit? hc,
    hexDigit_of_hexDigit? hd, by simpa [eq_comm] using heq⟩

theorem mem_shortEscapes {e c : Char} (h : shortEscape? e = some c) : (e, c) ∈ shortEscapes := by
  unfold shortEscape? at h
  split at h <;> cases h <;> decide

/-- A unit has 16 bits. -/
def Piece.Proper : Piece → Prop
  | char _ => True
  | unit code => code < 0x10000

-- The induction is on the text as it is scanned; each step takes a letter.
theorem quoted_of_scanString {s rest : List Char} {pieces : List Piece}
    (h : scanString s = (pieces, .ok rest)) :
    (∀ piece ∈ pieces, piece.Proper) ∧
      ∃ q, s = q ++ '"' :: rest ∧ Quoted q (pieces.flatMap Piece.units) := by
  fun_induction scanString s generalizing pieces with
  | case2 s =>
    cases h
    exact ⟨by simp, [], rfl, .nil⟩
  | case3 a b c d s code hcode pieces rest' hscan ih =>
    cases h
    obtain ⟨hproper, q, rfl, hq⟩ := ih hscan
    obtain ⟨i, j, k, l, ha, hb, hc, hd, rfl⟩ := exists_of_hexUnit? hcode
    have := ha.lt
    have := hb.lt
    have := hc.lt
    have := hd.lt
    refine ⟨List.forall_mem_cons.mpr ⟨?_, hproper⟩, _, rfl, .cons (.code ha hb hc hd) hq⟩
    show _ < 0x10000
    omega
  | case6 e s _ _ c hescape pieces rest' hscan ih =>
    cases h
    obtain ⟨hproper, q, rfl, hq⟩ := ih hscan
    exact ⟨List.forall_mem_cons.mpr ⟨trivial, hproper⟩, _, rfl,
      .cons (.short (mem_shortEscapes hescape)) hq⟩
  | case10 c s hquote _ _ hescape hend hcontrol pieces rest' hscan ih =>
    cases h
    -- Every backslash was taken by a case before, with what follows it or at the end.
    have hplain : c ≠ '\\' := by
      rintro rfl
      cases s with
      | nil => exact hend rfl rfl
      | cons e s => exact hescape e s rfl rfl
    obtain ⟨hproper, q, rfl, hq⟩ := ih hscan
    exact ⟨List.forall_mem_cons.mpr ⟨trivial, hproper⟩, _, rfl,
      .cons (.plain (Nat.not_lt.mp hcontrol) hquote hplain) hq⟩
  | _ => cases h

theorem exists_of_cons_eq_text {c : Char} {assembled : Assembled} {content : List Char}
    (h : assembled.cons c = .text content) :
    ∃ rest, assembled = .text rest ∧ content = c :: rest := by
  cases assembled <;> cases h
  exact ⟨_, rfl, rfl⟩

/-- Pieces that make a text have its code units. -/
theorem units_of_assemble {pieces : List Piece} {content : List Char}
    (h : assemble pieces = .text content) (hproper : ∀ piece ∈ pieces, piece.Proper) :
    pieces.flatMap Piece.units = units content := by
  fun_induction assemble pieces generalizing content with
  | case1 =>
    cases h
    rfl
  | case2 c pieces ih =>
    obtain ⟨rest, hrest, rfl⟩ := exists_of_cons_eq_text h
    rw [List.flatMap_cons, ih hrest (List.forall_mem_cons.mp hproper).2]
    rfl
  -- Two halves of a pair have the units of their character.
  | case5 code _ hleading next pieces hnext ih =>
    have := isLeading_iff.mp hleading
    have := isTrailing_iff.mp hnext
    obtain ⟨rest, hrest, rfl⟩ := exists_of_cons_eq_text h
    have hpieces := (List.forall_mem_cons.mp (List.forall_mem_cons.mp hproper).2).2
    have hvalid : (0x10000 + (code - 0xD800) * 0x400 + (next - 0xDC00)).isValidChar :=
      .inr ⟨by omega, by omega⟩
    rw [List.flatMap_cons, List.flatMap_cons, ih hrest hpieces, units_cons, unitsOf,
      Char.toNat_ofNat, if_pos hvalid, if_neg (by omega)]
    refine congrArg₂ (· :: · :: units rest) ?_ ?_ <;> omega
  | case8 code pieces htrailing hleading ih =>
    rw [isTrailing_iff] at htrailing
    rw [isLeading_iff] at hleading
    obtain ⟨hcode, hpieces⟩ := List.forall_mem_cons.mp hproper
    have hcode : code < 0x10000 := hcode
    obtain ⟨rest, hrest, rfl⟩ := exists_of_cons_eq_text h
    have hvalid : code.isValidChar := by
      unfold Nat.isValidChar
      omega
    rw [List.flatMap_cons, ih hrest hpieces, units_cons, unitsOf,
      Char.toNat_ofNat, if_pos hvalid, if_pos hcode]
    rfl
  | _ => cases h

/-- A string token comes of a string of the grammar, which stands for its text. -/
theorem standsFor_of_stringToken {s rest : List Char} {text : String}
    (h : stringToken s = (.string (some text), rest)) :
    ∃ q, s = q ++ '"' :: rest ∧ StandsFor q text := by
  unfold stringToken at h
  split at h
  · rename_i pieces left hscan
    obtain ⟨hproper, q, hq, hquoted⟩ := quoted_of_scanString hscan
    split at h
    · rename_i content hassembled
      cases h
      refine ⟨q, hq, ?_⟩
      rw [StandsFor, String.toList_ofList, ← units_of_assemble hassembled hproper]
      exact hquoted
    · cases h
  · split at h <;> cases h

variable {s rest : List Char}

/-! ## What is left is the end of the text -/

theorem suffix_of_scanDigits {digits : List Char} (h : scanDigits s = .ok (digits, rest)) :
    rest <:+ s := by
  unfold scanDigits at h
  split at h
  · cases h
  · cases h
    exact List.dropWhile_suffix _

theorem suffix_of_scanWhole {digits : List Char} (h : scanWhole s = .ok (digits, rest)) :
    rest <:+ s := by
  unfold scanWhole at h
  split at h
  · cases h
  · exact suffix_of_scanDigits h

theorem suffix_of_scanFraction {digits : List Char} (h : scanFraction s = .ok (digits, rest)) :
    rest <:+ s := by
  unfold scanFraction at h
  split at h
  · exact (suffix_of_scanDigits h).trans (List.suffix_cons _ _)
  · cases h
    exact List.suffix_rfl

theorem suffix_of_scanExponentDigits {parts : Bool × List Char}
    (h : scanExponentDigits s = .ok (parts, rest)) : rest <:+ s := by
  unfold scanExponentDigits at h
  split at h <;> obtain ⟨⟨digits, rest⟩, hdigits, heq⟩ := exists_of_map_eq_ok h <;> cases heq
  · exact (suffix_of_scanDigits hdigits).trans (List.suffix_cons _ _)
  · exact (suffix_of_scanDigits hdigits).trans (List.suffix_cons _ _)
  · exact suffix_of_scanDigits hdigits

theorem suffix_of_scanExponent {exponent : Option (Bool × List Char)}
    (h : scanExponent s = .ok (exponent, rest)) : rest <:+ s := by
  unfold scanExponent at h
  split at h
  · cases h
    exact List.suffix_rfl
  · split at h
    · obtain ⟨⟨parts, rest⟩, hparts, heq⟩ := exists_of_map_eq_ok h
      cases heq
      exact (suffix_of_scanExponentDigits hparts).trans (List.suffix_cons _ _)
    · cases h
      exact List.suffix_rfl

/-- Reading a numeral leaves the end of the text. -/
theorem suffix_of_scanNumeral {numeral : Numeral} (h : scanNumeral s = .ok (numeral, rest)) :
    rest <:+ s := by
  obtain ⟨⟨whole, afterWhole⟩, hwhole, h⟩ := bind_eq_ok_iff.mp h
  obtain ⟨⟨fraction, afterFraction⟩, hfraction, h⟩ := bind_eq_ok_iff.mp h
  obtain ⟨⟨exponent, afterExponent⟩, hexponent, h⟩ := bind_eq_ok_iff.mp h
  cases h
  exact (suffix_of_scanExponent hexponent).trans
    ((suffix_of_scanFraction hfraction).trans (suffix_of_scanWhole hwhole))

theorem suffix_numberToken (s : List Char) : (numberToken s).2 <:+ s := by
  unfold numberToken
  split
  · exact suffix_of_scanNumeral ‹_›
  · exact List.nil_suffix
  · exact List.nil_suffix

theorem suffix_wordToken (word : List Char) (token : Token) (s : List Char) :
    (wordToken word token s).2 <:+ s := by
  induction word generalizing s with
  | nil => exact List.suffix_rfl
  | cons w word ih =>
    cases s with
    | nil => simp [wordToken]
    | cons c s =>
      rw [wordToken]
      split
      · exact (ih s).trans (List.suffix_cons _ _)
      · exact List.nil_suffix

theorem suffix_stringToken (s : List Char) : (stringToken s).2 <:+ s := by
  unfold stringToken
  split
  · rename_i hscan
    obtain ⟨-, q, rfl, -⟩ := quoted_of_scanString hscan
    split <;> exact ⟨q ++ ['"'], by simp⟩
  · split <;> exact List.nil_suffix

/-- Whatever token is read, what is left is an end of the text. -/
theorem suffix_tokenFrom (c : Char) (s : List Char) : (tokenFrom c s).2 <:+ c :: s := by
  unfold tokenFrom
  split
  case h_12 =>
    split
    · exact suffix_numberToken _
    · exact List.nil_suffix
  all_goals refine List.IsSuffix.trans ?_ (List.suffix_cons _ _)
  case h_7 | h_8 | h_9 => exact suffix_wordToken _ _ _
  case h_10 => exact suffix_stringToken _
  case h_11 => exact suffix_numberToken _
  all_goals exact List.suffix_rfl

/-! ## Where string tokens come from -/

theorem wordToken_eq_or (word : List Char) (token : Token) (s : List Char) :
    (wordToken word token s).1 = token ∨
      ∃ reader passer, (wordToken word token s).1 = .broken reader passer := by
  induction word generalizing s with
  | nil => exact .inl rfl
  | cons w word ih =>
    cases s with
    | nil => exact .inr ⟨.truncated, .truncated, by simp [wordToken]⟩
    | cons c s =>
      rw [wordToken]
      split
      · exact ih s
      · exact .inr ⟨_, _, rfl⟩

theorem numberToken_ne_string (s : List Char) (content : Option String) :
    (numberToken s).1 ≠ .string content := by
  unfold numberToken
  split <;> nofun

/-- Only what begins with a quote is a string. -/
theorem stringToken_of_tokenFrom {c : Char} {content : Option String}
    (h : tokenFrom c s = (.string content, rest)) :
    c = '"' ∧ stringToken s = (.string content, rest) := by
  have hword {word : List Char} {token : Token} (htoken : token ≠ .string content) :
      wordToken word token s ≠ (.string content, rest) := by
    intro heq
    rcases wordToken_eq_or word token s with hfst | ⟨_, _, hfst⟩ <;> rw [heq] at hfst
    · exact htoken hfst.symm
    · cases hfst
  have hnumber (t : List Char) : numberToken t ≠ (.string content, rest) := fun heq =>
    numberToken_ne_string t content (congrArg Prod.fst heq)
  unfold tokenFrom at h
  split at h
  case h_7 | h_8 | h_9 => exact absurd h (hword nofun)
  case h_10 => exact ⟨rfl, h⟩
  case h_11 => exact absurd h (hnumber _)
  case h_12 =>
    split at h
    · exact absurd h (hnumber _)
    · cases h
  all_goals cases h

-- The induction is on the text that is left, which is the end of the whole text at every token.
/-- Every string token stands in the text, between quotes. -/
theorem exists_standsFor_of_mem_tokens {text : String} (h : .string (some text) ∈ tokens s) :
    ∃ q, '"' :: (q ++ ['"']) <:+: s ∧ StandsFor q text := by
  fun_induction tokens s with
  | case1 => cases h
  | case2 c s hblank ih =>
    obtain ⟨q, hq, hstands⟩ := ih h
    exact ⟨q, hq.trans (List.suffix_cons _ _).isInfix, hstands⟩
  | case3 c s hblank next ih =>
    rcases List.mem_cons.mp h with hfirst | hlater
    · have hnext : tokenFrom c s = (.string (some text), (tokenFrom c s).2) :=
        Prod.ext hfirst.symm rfl
      obtain ⟨rfl, htoken⟩ := stringToken_of_tokenFrom hnext
      obtain ⟨q, hs, hstands⟩ := standsFor_of_stringToken htoken
      exact ⟨q, ⟨[], next.2, by rw [hs]; simp [next]⟩, hstands⟩
    · obtain ⟨q, hq, hstands⟩ := ih hlater
      exact ⟨q, hq.trans (suffix_tokenFrom c s).isInfix, hstands⟩

/-! ## NUL -/

def nulEscape : List Char := ['\\', 'u', '0', '0', '0', '0']

theorem zero_notMem_unitsOf {c : Char} (h : 0 < c.toNat) : 0 ∉ unitsOf c := by
  have hc := unitsOf_spec c
  generalize unitsOf c = cs at *
  cases hc <;> simp <;> omega

-- There is one digit for zero, unlike for ten to fifteen.
theorem eq_zero_of_hexDigit {c : Char} (h : HexDigit c 0) : c = '0' := by
  rcases h.eq with rfl | rfl <;> rfl

/-- The code unit zero is only written as its escape, since control characters must be escaped and
it has no short one. -/
theorem eq_nulEscape_of_letter {us : List Nat} (h : Letter s us) (hzero : 0 ∈ us) :
    s = nulEscape := by
  cases h with
  | plain hcontrol => exact absurd hzero (zero_notMem_unitsOf (by omega))
  | short h =>
    have hall : ∀ pair ∈ shortEscapes, 0 ∉ unitsOf pair.2 := by decide
    exact absurd hzero (hall _ h)
  | @code a b c d i j k l ha hb hc hd =>
    have hcode := List.mem_singleton.mp hzero
    obtain ⟨rfl, rfl, rfl, rfl⟩ : i = 0 ∧ j = 0 ∧ k = 0 ∧ l = 0 := by omega
    rw [eq_zero_of_hexDigit ha, eq_zero_of_hexDigit hb, eq_zero_of_hexDigit hc,
      eq_zero_of_hexDigit hd, nulEscape]

/-- A quoted text with the code unit zero has the escape somewhere in it. -/
theorem nulEscape_infix_of_quoted {us : List Nat} (h : Quoted s us) (hzero : 0 ∈ us) :
    nulEscape <:+: s := by
  induction h with
  | nil => cases hzero
  | cons hletter _ ih =>
    rcases List.mem_append.mp hzero with hfirst | hlater
    · rw [eq_nulEscape_of_letter hletter hfirst]
      exact List.infix_append' [] _ _
    · exact (ih hlater).trans (List.suffix_append _ _).isInfix

/-- A string that stands for a text with NUL has its escape. -/
theorem nulEscape_infix_of_standsFor {text : String} (h : StandsFor s text)
    (hnul : '\x00' ∈ text.toList) : nulEscape <:+: s := by
  refine nulEscape_infix_of_quoted h (List.mem_flatMap.mpr ⟨_, hnul, ?_⟩)
  decide

end Daybook.Json
