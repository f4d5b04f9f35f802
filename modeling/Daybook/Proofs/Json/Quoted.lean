import Daybook.Json.Token
import Mathlib.Data.List.Basic

/-!
# What a string stands for

The grammar of strings, and the UTF-16 units that a string stands for.  Every string of the grammar
is scanned to its end, and the text of its token is the one with these units, if there is one.
-/

namespace Daybook.Json

/-! ## Units of a text -/

def unitsOf (c : Char) : List Nat :=
  if c.toNat < 0x10000 then [c.toNat]
  else [0xD800 + (c.toNat - 0x10000) / 0x400, 0xDC00 + (c.toNat - 0x10000) % 0x400]

def units (s : List Char) : List Nat := s.flatMap unitsOf

theorem units_cons (c : Char) (s : List Char) : units (c :: s) = unitsOf c ++ units s := rfl

/-- How a character is told by its units. -/
inductive UnitsOf (c : Char) : List Nat → Prop
  | single (h : c.toNat < 0xD800 ∨ 0xE000 ≤ c.toNat) : UnitsOf c [c.toNat]
  | pair {high low : Nat} (hhigh : high < 0x400) (hlow : low < 0x400)
    (h : c.toNat = 0x10000 + high * 0x400 + low) : UnitsOf c [0xD800 + high, 0xDC00 + low]

/-- Every character has the code units that it should have. -/
theorem unitsOf_spec (c : Char) : UnitsOf c (unitsOf c) := by
  have hvalid : c.toNat < 0xD800 ∨ 0xDFFF < c.toNat ∧ c.toNat < 0x110000 := c.valid
  rw [unitsOf]
  by_cases hsmall : c.toNat < 0x10000
  · rw [if_pos hsmall]
    exact .single (by omega)
  · rw [if_neg hsmall]
    exact .pair (by omega) (by omega) (by omega)

/-! ## The grammar of strings -/

structure HexDigit (c : Char) (n : Nat) : Prop where
  lt : n < 16
  eq : c = n.digitChar ∨ c = n.digitChar.toUpper

def shortEscapes : List (Char × Char) :=
  [('"', '"'), ('\\', '\\'), ('/', '/'), ('b', '\x08'), ('f', '\x0c'), ('n', '\n'), ('r', '\r'),
    ('t', '\t')]

/-- A character of a string, as it stands or escaped, and the units that it stands for. -/
inductive Letter : List Char → List Nat → Prop
  | plain {c : Char} (hcontrol : 0x20 ≤ c.toNat) (hquote : c ≠ '"') (hescape : c ≠ '\\') :
    Letter [c] (unitsOf c)
  | short {e c : Char} (h : (e, c) ∈ shortEscapes) : Letter ['\\', e] (unitsOf c)
  | code {a b c d : Char} {i j k l : Nat} (ha : HexDigit a i) (hb : HexDigit b j)
    (hc : HexDigit c k) (hd : HexDigit d l) :
    Letter ['\\', 'u', a, b, c, d] [((i * 16 + j) * 16 + k) * 16 + l]

/-- What stands between the quotes of a string, and the units that it stands for. -/
inductive Quoted : List Char → List Nat → Prop
  | nil : Quoted [] []
  | cons {s t : List Char} {us vs : List Nat} (h : Letter s us) (ht : Quoted t vs) :
    Quoted (s ++ t) (us ++ vs)

def StandsFor (s : List Char) (text : String) : Prop := Quoted s (units text.toList)

/-! ## Scanning -/

namespace Piece

def units : Piece → List Nat
  | char c => unitsOf c
  | unit code => [code]

end Piece

/-- Hexadecimal digits of either case are read as their numbers. -/
theorem hexDigit?_of_hexDigit {c : Char} {n : Nat} (h : HexDigit c n) : hexDigit? c = some n := by
  have hall : ∀ n < 16,
      hexDigit? n.digitChar = some n ∧ hexDigit? n.digitChar.toUpper = some n := by
    decide
  rcases h.eq with rfl | rfl
  · exact (hall n h.lt).1
  · exact (hall n h.lt).2

/-- One letter of a string is read as one piece, whichever way it is written. -/
theorem scanString_letter {s : List Char} {us : List Nat} (h : Letter s us) (rest : List Char) :
    ∃ piece : Piece, piece.units = us ∧
      scanString (s ++ rest) = (piece :: (scanString rest).1, (scanString rest).2) := by
  cases h with
  | @plain c hcontrol hquote hescape =>
    refine ⟨.char c, rfl, ?_⟩
    have hcontrol' : ¬c.toNat < 0x20 := Nat.not_lt.mpr hcontrol
    simp [scanString, hescape, hcontrol']
  | @short e c h =>
    have hall : ∀ pair ∈ shortEscapes, pair.1 ≠ 'u' ∧ shortEscape? pair.1 = some pair.2 := by
      decide
    obtain ⟨hcode, hescape⟩ := hall _ h
    refine ⟨.char c, rfl, ?_⟩
    simp only at hcode hescape
    simp [scanString, hcode, hescape]
  | code ha hb hc hd =>
    refine ⟨.unit _, rfl, ?_⟩
    simp [scanString, hexUnit?, hexDigit?_of_hexDigit ha, hexDigit?_of_hexDigit hb,
      hexDigit?_of_hexDigit hc, hexDigit?_of_hexDigit hd]

-- The induction is on the letters of the string.
theorem scanString_of_quoted {s : List Char} {us : List Nat} (h : Quoted s us) (rest : List Char) :
    ∃ pieces : List Piece, pieces.flatMap Piece.units = us ∧
      scanString (s ++ '"' :: rest) = (pieces, .ok rest) := by
  induction h with
  | nil => exact ⟨[], rfl, by simp [scanString]⟩
  | @cons s t us vs hletter _ ih =>
    obtain ⟨pieces, hpieces, hscan⟩ := ih
    obtain ⟨piece, hpiece, hfirst⟩ := scanString_letter hletter (t ++ '"' :: rest)
    refine ⟨piece :: pieces, ?_, ?_⟩
    · rw [List.flatMap_cons, hpiece, hpieces]
    · rw [List.append_assoc, hfirst, hscan]

/-! ## Putting pieces together -/

-- Units tell where each character of a text ends.
theorem eq_of_unitsOf_append {c d : Char} {us vs : List Nat}
    (h : unitsOf c ++ us = unitsOf d ++ vs) : c = d ∧ us = vs := by
  have hc := unitsOf_spec c
  have hd := unitsOf_spec d
  have hchar (heq : c.toNat = d.toNat) : c = d := by
    rw [← Char.ofNat_toNat c, heq, Char.ofNat_toNat]
  generalize unitsOf c = cs at *
  generalize unitsOf d = ds at *
  cases hc with
  | single hc =>
    cases hd with
    | single hd =>
      -- A surrogate is no character, so both are told in one unit or both in two.
      obtain ⟨hcode, hrest⟩ := List.cons.inj h
      exact ⟨hchar hcode, hrest⟩
    | pair hhigh hlow hd =>
      have hcode := (List.cons.inj h).1
      omega
  | pair hhigh hlow hc =>
    cases hd with
    | single hd =>
      have hcode := (List.cons.inj h).1
      omega
    | pair hhigh' hlow' hd =>
      obtain ⟨hfirst, h⟩ := List.cons.inj h
      obtain ⟨hsecond, hrest⟩ := List.cons.inj h
      exact ⟨hchar (by omega), hrest⟩

/-- How a text starts, by its first unit and the units after it. -/
inductive Starts (text : List Char) (code : Nat) (us : List Nat) : Prop
  | single {c : Char} {rest : List Char} (htext : text = c :: rest) (hcode : code = c.toNat)
    (hus : us = units rest) (h : c.toNat < 0xD800 ∨ 0xE000 ≤ c.toNat)
  | pair {c : Char} {rest : List Char} {high low : Nat} (htext : text = c :: rest)
    (hcode : code = 0xD800 + high) (hus : us = (0xDC00 + low) :: units rest) (hhigh : high < 0x400)
    (hlow : low < 0x400) (h : c.toNat = 0x10000 + high * 0x400 + low)

/-- The first code unit of a text is the whole of its first character or the first half of it. -/
theorem starts_of_units {text : List Char} {code : Nat} {us : List Nat}
    (h : code :: us = units text) : Starts text code us := by
  cases text with
  | nil => cases h
  | cons c rest =>
    rw [units_cons] at h
    have hc := unitsOf_spec c
    generalize unitsOf c = cs at *
    cases hc with
    | single hc =>
      obtain ⟨rfl, rfl⟩ := List.cons.inj h
      exact .single rfl rfl rfl hc
    | pair hhigh hlow hc =>
      obtain ⟨rfl, rfl⟩ := List.cons.inj h
      exact .pair rfl rfl rfl hhigh hlow hc

theorem unitsOf_ne_nil (c : Char) : unitsOf c ≠ [] := by
  have hc := unitsOf_spec c
  generalize unitsOf c = cs at *
  cases hc <;> exact List.cons_ne_nil _ _

-- No character starts in the middle of a pair.
theorem not_trailing_of_unitsOf {c : Char} {code : Nat} {us vs : List Nat}
    (h : unitsOf c ++ us = code :: vs) : ¬(0xDC00 ≤ code ∧ code < 0xE000) := by
  have hc := unitsOf_spec c
  generalize unitsOf c = cs at *
  cases hc <;> (have hcode := (List.cons.inj h).1; omega)

theorem isTrailing_iff {code : Nat} : isTrailing code ↔ 0xDC00 ≤ code ∧ code < 0xE000 := by
  simp [isTrailing]

theorem isLeading_iff {code : Nat} : isLeading code ↔ 0xD800 ≤ code ∧ code < 0xDC00 := by
  simp [isLeading]

-- The induction is on the pieces, as they are put together; the text says which surrogates pair up.
theorem assemble_of_units {pieces : List Piece} {text : List Char}
    (h : pieces.flatMap Piece.units = units text) : assemble pieces = .text text := by
  fun_induction assemble pieces generalizing text with
  | case1 =>
    cases text with
    | nil => rfl
    | cons d text => exact absurd h.symm (List.append_ne_nil_of_left_ne_nil (unitsOf_ne_nil d) _)
  | case2 c pieces ih =>
    cases text with
    | nil => exact absurd h (List.append_ne_nil_of_left_ne_nil (unitsOf_ne_nil c) _)
    | cons d text =>
      obtain ⟨rfl, hrest⟩ := eq_of_unitsOf_append h
      rw [ih hrest, Assembled.cons]
  -- No text starts with the second half of a pair, nor does a first half stand alone.
  | case3 code pieces htrailing =>
    have hcode := isTrailing_iff.mp htrailing
    cases starts_of_units h <;> omega
  | case4 code htrailing hleading =>
    have hcode := isLeading_iff.mp hleading
    cases starts_of_units h with
    | single => omega
    | pair _ _ hus => cases hus
  -- Two halves that meet are one character.
  | case5 code htrailing hleading next pieces hnext ih =>
    have hcode := isLeading_iff.mp hleading
    cases starts_of_units h with
    | single => omega
    | @pair c rest high low htext hfirst hus hhigh hlow hc =>
      obtain ⟨hsecond, hrest⟩ := List.cons.inj hus
      have hchar : 0x10000 + (code - 0xD800) * 0x400 + (next - 0xDC00) = c.toNat := by omega
      rw [ih hrest, Assembled.cons, hchar, Char.ofNat_toNat, htext]
  | case6 code htrailing hleading next pieces hnext =>
    have hcode := isLeading_iff.mp hleading
    cases starts_of_units h with
    | single => omega
    | pair _ _ hus =>
      have hsecond := (List.cons.inj hus).1
      exact absurd (isTrailing_iff.mpr ⟨by omega, by omega⟩) hnext
  | case7 code htrailing hleading d pieces =>
    have hcode := isLeading_iff.mp hleading
    cases starts_of_units h with
    | single => omega
    | pair _ _ hus => exact absurd ⟨by omega, by omega⟩ (not_trailing_of_unitsOf hus)
  | case8 code pieces htrailing hleading ih =>
    cases starts_of_units h with
    | single htext hfirst hus =>
      rw [ih hus, Assembled.cons, hfirst, Char.ofNat_toNat, htext]
    | pair => exact absurd (isLeading_iff.mpr ⟨by omega, by omega⟩) hleading

/-! ## Strings as tokens -/

/-- A string of the grammar is a token, and the text is the one that the string stands for. -/
theorem stringToken_of_quoted {s : List Char} {us : List Nat} (h : Quoted s us)
    (rest : List Char) :
    ∃ content, stringToken (s ++ '"' :: rest) = (.string content, rest) ∧
      ∀ text : String, us = units text.toList → content = some text := by
  obtain ⟨pieces, hpieces, hscan⟩ := scanString_of_quoted h rest
  simp only [stringToken, hscan]
  cases hassembled : assemble pieces with
  | text content =>
    refine ⟨some (.ofList content), rfl, fun text htext => ?_⟩
    rw [assemble_of_units (hpieces.trans htext)] at hassembled
    cases hassembled
    rw [String.ofList_toList]
  | unpaired | halfPair =>
    refine ⟨none, rfl, fun text htext => ?_⟩
    rw [assemble_of_units (hpieces.trans htext)] at hassembled
    cases hassembled

/-- A string that stands for a text is read as that text. -/
theorem stringToken_of_standsFor {s : List Char} {text : String} (h : StandsFor s text)
    (rest : List Char) : stringToken (s ++ '"' :: rest) = (.string (some text), rest) := by
  obtain ⟨content, htoken, hcontent⟩ := stringToken_of_quoted h rest
  rw [htoken, hcontent text rfl]

/-- A string stands for one text only. -/
theorem eq_of_standsFor {s : List Char} {text text' : String} (h : StandsFor s text)
    (h' : StandsFor s text') : text = text' := by
  have htoken := (stringToken_of_standsFor h []).symm.trans (stringToken_of_standsFor h' [])
  simpa using htoken

/-- Two quoted texts after each other are one. -/
theorem Quoted.append {s t : List Char} {us vs : List Nat} (h : Quoted s us) (h' : Quoted t vs) :
    Quoted (s ++ t) (us ++ vs) := by
  induction h with
  | nil => exact h'
  | cons hletter _ ih =>
    rw [List.append_assoc, List.append_assoc]
    exact .cons hletter ih

theorem StandsFor.append {s t : List Char} {text text' : String} (h : StandsFor s text)
    (h' : StandsFor t text') : StandsFor (s ++ t) (text ++ text') := by
  rw [StandsFor, String.toList_append, units, List.flatMap_append]
  exact Quoted.append h h'

/-- One letter stands for a character, plain or escaped. -/
theorem standsFor_of_letter {s : List Char} {c : Char} (h : Letter s (unitsOf c)) :
    StandsFor s (String.ofList [c]) := by
  rw [StandsFor, String.toList_ofList, ← List.append_nil s]
  exact .cons h .nil

def isPlain (c : Char) : Bool := 0x20 ≤ c.toNat && c != '"' && c != '\\'

/-- A text that needs no escapes stands for itself. -/
theorem standsFor_of_plain (text : String) (h : text.toList.all isPlain) :
    StandsFor text.toList text := by
  unfold StandsFor
  generalize text.toList = s at *
  induction s with
  | nil => exact .nil
  | cons c s ih =>
    obtain ⟨hc, hs⟩ := (Bool.and_eq_true _ _).mp h
    simp only [isPlain, Bool.and_eq_true, decide_eq_true_eq, bne_iff_ne] at hc
    exact .cons (.plain hc.1.1 hc.1.2 hc.2) (ih hs)

end Daybook.Json
