import Daybook.Text.Numeral
import Daybook.Text.Split
import Mathlib.Tactic.Common

/-!
# What stands for a number

A text is read as a number exactly when it is digits, perhaps after a sign, and the number that they
stand for is in the range.  Otherwise the first character that is no digit, or digits that are too
great already, tell why it is not.
-/

namespace Daybook.Text

structure IsDigits (s : List Char) : Prop where
  ne_nil : s ≠ []
  isDigit : ∀ c ∈ s, c.isDigit

inductive Decimal : List Char → Int → Prop
  | unsigned {s : List Char} (h : IsDigits s) : Decimal s (Nat.ofDigitChars 10 s 0)
  | plus {s : List Char} (h : IsDigits s) : Decimal ('+' :: s) (Nat.ofDigitChars 10 s 0)
  | minus {s : List Char} (h : IsDigits s) : Decimal ('-' :: s) (-(Nat.ofDigitChars 10 s 0 : Int))

theorem isBlank_of_isDigit {c : Char} (h : c.isDigit) : isBlank c = false := by
  obtain ⟨hlow, hhigh⟩ := Char.isDigit_iff_toNat.mp h
  exact isBlank_of_lt (Nat.lt_of_lt_of_le (by decide) hlow) (Nat.lt_of_le_of_lt hhigh (by decide))

/-! ## Signs -/

theorem IsDigits.head {c : Char} {s : List Char} (h : IsDigits (c :: s)) : c.isDigit :=
  h.isDigit c List.mem_cons_self

theorem not_decimal_nil {k : Int} : ¬Decimal [] k := by
  intro h
  cases h with
  | unsigned h => exact h.ne_nil rfl

theorem decimal_plus_iff {s : List Char} {k : Int} :
    Decimal ('+' :: s) k ↔ IsDigits s ∧ k = Nat.ofDigitChars 10 s 0 := by
  constructor
  · rintro (h | h)
    · exact absurd h.head (by decide)
    · exact ⟨h, rfl⟩
  · rintro ⟨h, rfl⟩
    exact .plus h

theorem decimal_minus_iff {s : List Char} {k : Int} :
    Decimal ('-' :: s) k ↔ IsDigits s ∧ k = -(Nat.ofDigitChars 10 s 0 : Int) := by
  constructor
  · rintro (h | _ | h)
    · exact absurd h.head (by decide)
    · exact ⟨h, rfl⟩
  · rintro ⟨h, rfl⟩
    exact .minus h

theorem decimal_iff_of_ne {s : List Char} {k : Int} (hplus : ∀ t, s ≠ '+' :: t)
    (hminus : ∀ t, s ≠ '-' :: t) : Decimal s k ↔ IsDigits s ∧ k = Nat.ofDigitChars 10 s 0 := by
  constructor
  · rintro (h | h | h)
    · exact ⟨h, rfl⟩
    · exact absurd rfl (hplus _)
    · exact absurd rfl (hminus _)
  · rintro ⟨h, rfl⟩
    exact .unsigned h

-- The characters that whole numbers are written with.
theorem Decimal.isDigit_or {s : List Char} {k : Int} (h : Decimal s k) {c : Char} (hc : c ∈ s) :
    c.isDigit ∨ c = '-' ∨ c = '+' := by
  cases h with
  | unsigned h => exact .inl (h.isDigit c hc)
  | plus h =>
    rcases List.mem_cons.mp hc with hsign | hdigit
    · exact .inr (.inr hsign)
    · exact .inl (h.isDigit c hdigit)
  | minus h =>
    rcases List.mem_cons.mp hc with hsign | hdigit
    · exact .inr (.inl hsign)
    · exact .inl (h.isDigit c hdigit)

theorem isBlank_of_isDigit_or {c : Char} (h : c.isDigit ∨ c = '-' ∨ c = '+') :
    isBlank c = false := by
  rcases h with hdigit | rfl | rfl
  · exact isBlank_of_isDigit hdigit
  · rfl
  · rfl

theorem isDigits_toDigits (n : Nat) : IsDigits (Nat.toDigits 10 n) where
  ne_nil := Nat.toDigits_ne_nil
  isDigit _ := Nat.isDigit_of_mem_toDigits (by decide) (by decide)

/-- What is written for an integer stands for it. -/
theorem decimal_toString (k : Int) : Decimal (toString k).toList k := by
  cases k with
  | ofNat n =>
    have hdigits := Decimal.unsigned (isDigits_toDigits n)
    rw [Nat.ofDigitChars_ten_toDigits] at hdigits
    show Decimal (Nat.repr n).toList n
    rwa [Nat.toList_repr]
  | negSucc n =>
    have hdigits := Decimal.minus (isDigits_toDigits (n + 1))
    rw [Nat.ofDigitChars_ten_toDigits] at hdigits
    show Decimal ("-" ++ Nat.repr (n + 1)).toList (-((n + 1 : Nat) : Int))
    rwa [String.toList_append, Nat.toList_repr]

/-! ## Digits -/

theorem le_ofDigitChars (s : List Char) (acc : Nat) : acc ≤ Nat.ofDigitChars 10 s acc := by
  induction s generalizing acc with
  | nil => exact Nat.le_refl acc
  | cons c s ih =>
    rw [Nat.ofDigitChars_cons]
    exact Nat.le_trans (by omega) (ih _)

-- A number never shrinks while it is read, so it is enough that the last one is within the bound.
theorem digitsWithin_eq_ok_iff {bound acc n : Nat} {outgrown : NumeralFault} {s : List Char}
    (hacc : acc ≤ bound) :
    digitsWithin bound outgrown acc s = .ok n ↔
      (∀ c ∈ s, c.isDigit) ∧ n = Nat.ofDigitChars 10 s acc ∧ n ≤ bound := by
  induction s generalizing acc with
  | nil =>
    rw [digitsWithin, Except.ok.injEq, Nat.ofDigitChars_nil]
    constructor
    · rintro rfl
      exact ⟨by simp, rfl, hacc⟩
    · exact fun h => h.2.1.symm
  | cons c s ih =>
    have hgrows := le_ofDigitChars s (10 * acc + (c.toNat - '0'.toNat))
    rw [digitsWithin, Nat.ofDigitChars_cons, List.forall_mem_cons]
    by_cases hc : c.isDigit
    · rw [if_pos hc, and_iff_right hc]
      by_cases hnext : 10 * acc + (c.toNat - '0'.toNat) ≤ bound
      · rw [if_pos hnext, ih hnext]
      -- What was read so far is too great already, and more digits only make it greater.
      · rw [if_neg hnext]
        constructor
        · rintro ⟨⟩
        · rintro ⟨-, rfl, hle⟩
          exact absurd (Nat.le_trans hgrows hle) hnext
    · rw [if_neg hc]
      constructor
      · rintro ⟨⟩
      · exact fun h => absurd h.1.1 hc

/-- A magnitude is read just when there are digits for it and it is within the bound. -/
theorem magnitude_eq_ok_iff {bound n : Nat} {outgrown : NumeralFault} {s : List Char} :
    magnitude bound outgrown s = .ok n ↔
      IsDigits s ∧ n = Nat.ofDigitChars 10 s 0 ∧ n ≤ bound := by
  cases s with
  | nil =>
    constructor
    · rintro ⟨⟩
    · exact fun h => absurd rfl h.1.ne_nil
  | cons c s =>
    rw [magnitude, digitsWithin_eq_ok_iff (Nat.zero_le bound)]
    · exact ⟨fun h => ⟨⟨List.cons_ne_nil c s, h.1⟩, h.2⟩, fun h => ⟨h.1.isDigit, h.2⟩⟩
    · simp

/-! ## Numbers without a minus sign -/

/-- The second text is what follows the plus sign of the first one, or all of a text that has none
in front. -/
inductive Unsigned : List Char → List Char → Prop
  | bare {s : List Char} (h : ∀ rest, s ≠ '+' :: rest) : Unsigned s s
  | plus (rest : List Char) : Unsigned ('+' :: rest) rest

/-- The text is a whole number in decimal, and not below 0. -/
inductive Natural (s : List Char) : Nat → Prop
  | intro {digits : List Char} (hsign : Unsigned s digits) (hdigits : IsDigits digits) :
    Natural s (Nat.ofDigitChars 10 digits 0)

/-- Why digits that continue the number `acc` are not read to their end: after some of them comes a
character that is none, or some of them are too great already. -/
inductive Stops (bound : Nat) (outgrown : NumeralFault) (acc : Nat) :
    List Char → NumeralFault → Prop
  | stranger {digits : List Char} {c : Char} (rest : List Char) (hdigits : ∀ d ∈ digits, d.isDigit)
    (hle : Nat.ofDigitChars 10 digits acc ≤ bound) (hc : c.isDigit = false) :
    Stops bound outgrown acc (digits ++ c :: rest) .invalidDigit
  | outgrown {digits : List Char} (rest : List Char) (hdigits : ∀ d ∈ digits, d.isDigit)
    (hlt : bound < Nat.ofDigitChars 10 digits acc) :
    Stops bound outgrown acc (digits ++ rest) outgrown

/-- Why a text is no number up to the bound. -/
inductive Misread (bound : Nat) : List Char → NumeralFault → Prop
  | empty : Misread bound [] .empty
  | noDigits : Misread bound ['+'] .invalidDigit
  | stops {s digits : List Char} {fault : NumeralFault} (hsign : Unsigned s digits)
    (h : Stops bound .tooLarge 0 digits fault) : Misread bound s fault

section Natural

variable {bound acc n : Nat} {outgrown fault : NumeralFault} {c : Char} {s digits : List Char}

theorem not_stops_nil (hacc : acc ≤ bound) : ¬Stops bound outgrown acc [] fault := by
  generalize hs : ([] : List Char) = s
  rintro (@⟨before, c, rest, -, -, -⟩ | @⟨before, rest, -, hlt⟩)
  · exact List.append_ne_nil_of_right_ne_nil before (List.cons_ne_nil c rest) hs.symm
  · obtain ⟨rfl, -⟩ := List.append_eq_nil_iff.mp hs.symm
    exact Nat.not_lt.mpr hacc hlt

-- A digit is not why reading stops, as long as what is read before it is within the bound.
theorem stops_cons_iff_of_isDigit (hacc : acc ≤ bound) (hc : c.isDigit) :
    Stops bound outgrown acc (c :: s) fault ↔
      Stops bound outgrown (10 * acc + (c.toNat - '0'.toNat)) s fault := by
  constructor
  · generalize ht : c :: s = t
    rintro (@⟨before, d, rest, hbefore, hle, hd⟩ | @⟨before, rest, hbefore, hlt⟩)
    · cases before with
      | nil =>
        obtain ⟨rfl, -⟩ := List.cons.inj ht
        rw [hd] at hc
        cases hc
      | cons _ before =>
        obtain ⟨rfl, rfl⟩ := List.cons.inj ht
        exact .stranger rest (List.forall_mem_cons.mp hbefore).2 hle hd
    · cases before with
      | nil => exact absurd hlt (Nat.not_lt.mpr hacc)
      | cons _ before =>
        obtain ⟨rfl, rfl⟩ := List.cons.inj ht
        exact .outgrown rest (List.forall_mem_cons.mp hbefore).2 hlt
  · rintro (⟨rest, hbefore, hle, hd⟩ | ⟨rest, hbefore, hlt⟩)
    · exact .stranger rest (List.forall_mem_cons.mpr ⟨hc, hbefore⟩) hle hd
    · exact .outgrown rest (List.forall_mem_cons.mpr ⟨hc, hbefore⟩) hlt

/-- A character that is no digit stops the reading there. -/
theorem stops_cons_iff_of_not_isDigit (hacc : acc ≤ bound) (hc : c.isDigit = false) :
    Stops bound outgrown acc (c :: s) fault ↔ .invalidDigit = fault := by
  constructor
  · generalize ht : c :: s = t
    rintro (@⟨before, d, rest, -, -, -⟩ | @⟨before, rest, hbefore, hlt⟩)
    · rfl
    · cases before with
      | nil => exact absurd hlt (Nat.not_lt.mpr hacc)
      | cons _ before =>
        obtain ⟨rfl, -⟩ := List.cons.inj ht
        rw [(List.forall_mem_cons.mp hbefore).1] at hc
        cases hc
  · rintro rfl
    exact @Stops.stranger bound outgrown acc [] c s nofun hacc hc

-- A number that has outgrown the bound stays too great, whatever follows.
theorem stops_iff_of_lt (hlt : bound < acc) :
    Stops bound outgrown acc s fault ↔ outgrown = fault := by
  constructor
  · rintro (@⟨before, d, rest, -, hle, -⟩ | _)
    · exact absurd (Nat.le_trans (le_ofDigitChars before acc) hle) (Nat.not_le.mpr hlt)
    · rfl
  · rintro rfl
    exact @Stops.outgrown bound outgrown acc [] s nofun hlt

/-- Digits fail where they stop: at what is no digit, or where they outgrow the bound. -/
theorem digitsWithin_eq_error_iff (hacc : acc ≤ bound) :
    digitsWithin bound outgrown acc s = .error fault ↔ Stops bound outgrown acc s fault := by
  induction s generalizing acc with
  | nil => exact iff_of_false nofun (not_stops_nil hacc)
  | cons c s ih =>
    rw [digitsWithin]
    by_cases hc : c.isDigit
    · rw [if_pos hc, stops_cons_iff_of_isDigit hacc hc]
      by_cases hnext : 10 * acc + (c.toNat - '0'.toNat) ≤ bound
      · rw [if_pos hnext, ih hnext]
      · rw [if_neg hnext, stops_iff_of_lt (Nat.lt_of_not_le hnext), Except.error.injEq]
    · rw [if_neg hc, stops_cons_iff_of_not_isDigit hacc (Bool.not_eq_true _ ▸ hc),
        Except.error.injEq]

/-! ## What stands after the sign -/

/-- Every text has its digits after one plus sign or none. -/
theorem exists_unsigned (s : List Char) : ∃ digits, Unsigned s digits := by
  by_cases h : ∃ rest, s = '+' :: rest
  · obtain ⟨rest, rfl⟩ := h
    exact ⟨rest, .plus rest⟩
  · exact ⟨s, .bare fun rest hrest => h ⟨rest, hrest⟩⟩

theorem Unsigned.ne_nil (h : Unsigned s digits) (hdigits : digits ≠ []) : s ≠ [] := by
  cases h with
  | bare _ => exact hdigits
  | plus _ => exact List.cons_ne_nil '+' digits

theorem Unsigned.readNat_eq (h : Unsigned s digits) (hs : s ≠ []) :
    readNat bound s = magnitude bound .tooLarge digits := by
  cases h with
  | plus _ => rfl
  | bare hbare =>
    unfold readNat
    split
    · exact absurd rfl hs
    · exact absurd rfl (hbare _)
    · rfl

/-- A natural number is read just when the text stands for it and it is within the bound. -/
theorem readNat_eq_ok_iff : readNat bound s = .ok n ↔ Natural s n ∧ n ≤ bound := by
  constructor
  · intro h
    have hs : s ≠ [] := by
      rintro rfl
      cases h
    obtain ⟨digits, hsign⟩ := exists_unsigned s
    rw [hsign.readNat_eq hs] at h
    obtain ⟨hdigits, rfl, hle⟩ := magnitude_eq_ok_iff.mp h
    exact ⟨.intro hsign hdigits, hle⟩
  · rintro ⟨⟨hsign, hdigits⟩, hle⟩
    rw [hsign.readNat_eq (hsign.ne_nil hdigits.ne_nil), magnitude_eq_ok_iff]
    exact ⟨hdigits, rfl, hle⟩

/-- A natural number cannot be read for the reason that its text gives. -/
theorem readNat_eq_error_iff : readNat bound s = .error fault ↔ Misread bound s fault := by
  constructor
  · intro h
    by_cases hs : s = []
    · subst hs
      cases h
      exact .empty
    · obtain ⟨digits, hsign⟩ := exists_unsigned s
      rw [hsign.readNat_eq hs] at h
      -- A lone sign is not the empty text, though no digits are left of either.
      cases digits with
      | nil =>
        cases h
        cases hsign with
        | bare _ => exact absurd rfl hs
        | plus _ => exact .noDigits
      | cons c digits => exact .stops hsign ((digitsWithin_eq_error_iff (Nat.zero_le bound)).mp h)
  · rintro (_ | _ | @⟨_, digits, _, hsign, hstops⟩)
    · rfl
    · rfl
    · cases digits with
      | nil => exact absurd hstops (not_stops_nil (Nat.zero_le bound))
      | cons c digits =>
        rw [hsign.readNat_eq (hsign.ne_nil (List.cons_ne_nil c digits))]
        exact (digitsWithin_eq_error_iff (Nat.zero_le bound)).mpr hstops

/-- What is written for a natural number stands for it. -/
theorem natural_toString (n : Nat) : Natural (toString n).toList n := by
  have hdigits := isDigits_toDigits n
  have hbare : ∀ rest, Nat.toDigits 10 n ≠ '+' :: rest := by
    intro rest h
    exact absurd (h ▸ hdigits).head (by decide)
  have hnatural := Natural.intro (.bare hbare) hdigits
  rw [Nat.ofDigitChars_ten_toDigits] at hnatural
  show Natural (Nat.repr n).toList n
  rwa [Nat.toList_repr]

end Natural

/-! ## Numbers of 64 bits -/

-- The bound on the digits is the range of the number that is made of them.
theorem map_ofInt_magnitude_eq_ok_iff (bound : Nat) (outgrown : NumeralFault) (f : Int → Int)
    (hrange : ∀ k : Nat, k ≤ bound ↔ -0x8000000000000000 ≤ f k ∧ f k < 0x8000000000000000)
    (s : List Char) (n : Int64) :
    (magnitude bound outgrown s >>= fun k => pure (k : Int)).map (fun k => Int64.ofInt (f k)) =
        .ok n ↔
      IsDigits s ∧ n.toInt = f (Nat.ofDigitChars 10 s 0) := by
  constructor
  · intro h
    cases hread : magnitude bound outgrown s with
    | error fault =>
      rw [hread] at h
      cases h
    | ok k =>
      obtain ⟨hdigits, rfl, hle⟩ := magnitude_eq_ok_iff.mp hread
      rw [hread] at h
      cases h
      obtain ⟨hlow, hhigh⟩ := (hrange _).mp hle
      exact ⟨hdigits, Int64.toInt_ofInt_of_le hlow hhigh⟩
  · rintro ⟨hdigits, hn⟩
    have hle := (hrange (Nat.ofDigitChars 10 s 0)).mpr (hn ▸ ⟨n.le_toInt, n.toInt_lt⟩)
    rw [magnitude_eq_ok_iff.mpr ⟨hdigits, rfl, hle⟩]
    show Except.ok (Int64.ofInt (f _)) = _
    rw [← hn, Int64.ofInt_toInt]

/-- A text is read as an integer of 64 bits just when it stands for this integer in decimal. -/
theorem readInt64_eq_ok_iff {s : List Char} {n : Int64} :
    readInt64 s = .ok n ↔ Decimal s n.toInt := by
  have hplain := map_ofInt_magnitude_eq_ok_iff 0x7FFFFFFFFFFFFFFF .tooLarge (fun k => k) (by omega)
  have hminus := map_ofInt_magnitude_eq_ok_iff 0x8000000000000000 .tooSmall (fun k => -k) (by omega)
  unfold readInt64
  split
  · constructor
    · rintro ⟨⟩
    · exact fun h => absurd h not_decimal_nil
  · rw [decimal_plus_iff]
    exact hplain _ n
  · rw [decimal_minus_iff]
    exact hminus _ n
  · rename_i hnotPlus hnotMinus
    rw [decimal_iff_of_ne hnotPlus hnotMinus]
    exact hplain _ n

end Daybook.Text
