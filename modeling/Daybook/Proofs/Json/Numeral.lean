import Daybook.Json.Token
import Daybook.Proofs.Text.Numeral

/-!
# What is a number

The grammar of numbers.  Every number of the grammar is scanned whole, unless what follows could be
a part of it.
-/

namespace Daybook.Json

open Text (IsDigits)

/-! ## The grammar of numbers -/

inductive Whole : List Char → Prop
  | zero : Whole ['0']
  | digits {c : Char} {s : List Char} (h : IsDigits (c :: s)) (hzero : c ≠ '0') : Whole (c :: s)

inductive Fraction : List Char → Prop
  | none : Fraction []
  | digits {s : List Char} (h : IsDigits s) : Fraction ('.' :: s)

inductive Exponent : List Char → Prop
  | none : Exponent []
  | digits {e : Char} {sign s : List Char} (he : e = 'e' ∨ e = 'E')
    (hsign : sign = [] ∨ sign = ['+'] ∨ sign = ['-']) (h : IsDigits s) : Exponent (e :: (sign ++ s))

inductive IsNumber : List Char → Prop
  | intro {sign whole fraction exponent : List Char} (hsign : sign = [] ∨ sign = ['-'])
    (hwhole : Whole whole) (hfraction : Fraction fraction) (hexponent : Exponent exponent) :
    IsNumber (sign ++ (whole ++ (fraction ++ exponent)))

/-! ## Scanning -/

/-- A number does not go on in this text. -/
def Stops (rest : List Char) : Prop :=
  ∀ c ∈ rest.head?, c.isDigit = false ∧ c ≠ '.' ∧ c ≠ 'e' ∧ c ≠ 'E'

variable {s rest : List Char}

theorem scanDigits_append (h : IsDigits s) (hrest : ∀ c ∈ rest.head?, c.isDigit = false) :
    scanDigits (s ++ rest) = .ok (s, rest) := by
  have htake : (s ++ rest).takeWhile Char.isDigit = s := by
    rw [List.takeWhile_append_of_pos h.isDigit]
    cases rest with
    | nil => simp
    | cons c rest =>
      rw [List.takeWhile_cons_of_neg (by simp [hrest c rfl]), List.append_nil]
  have hdrop : (s ++ rest).dropWhile Char.isDigit = rest := by
    rw [List.dropWhile_append_of_pos h.isDigit]
    cases rest with
    | nil => rfl
    | cons c rest => exact List.dropWhile_cons_of_neg (by simp [hrest c rfl])
  rw [scanDigits, htake, hdrop]
  obtain ⟨c, s, rfl⟩ := List.exists_cons_of_ne_nil h.ne_nil
  rfl

/-- A whole number is read up to the first character that cannot belong to it. -/
theorem scanWhole_append (h : Whole s) (hrest : ∀ c ∈ rest.head?, c.isDigit = false) :
    scanWhole (s ++ rest) = .ok (s, rest) := by
  cases h with
  | zero =>
    rw [scanWhole, scanDigits_append ⟨by decide, List.forall_mem_singleton.mpr rfl⟩ hrest]
    rfl
  | digits h hzero =>
    rw [scanWhole, scanDigits_append h hrest]
    split
    · rename_i heq
      cases heq
      exact absurd rfl hzero
    · rfl

/-- A fraction is read up to what stops it, and no fraction where there is none. -/
theorem scanFraction_append (h : Fraction s)
    (hrest : ∀ c ∈ rest.head?, c.isDigit = false ∧ c ≠ '.') :
    ∃ digits, scanFraction (s ++ rest) = .ok (digits, rest) := by
  cases h with
  | none =>
    refine ⟨[], ?_⟩
    rw [List.nil_append]
    unfold scanFraction
    split
    · exact absurd rfl (hrest '.' rfl).2
    · rfl
  | @digits s h => exact ⟨s, scanDigits_append h fun c hc => (hrest c hc).1⟩

theorem scanExponentDigits_append {sign : List Char}
    (hsign : sign = [] ∨ sign = ['+'] ∨ sign = ['-']) (h : IsDigits s)
    (hrest : ∀ c ∈ rest.head?, c.isDigit = false) :
    ∃ parts, scanExponentDigits (sign ++ s ++ rest) = .ok (parts, rest) := by
  have hscan := scanDigits_append h hrest
  rcases hsign with rfl | rfl | rfl
  · obtain ⟨c, s, rfl⟩ := List.exists_cons_of_ne_nil h.ne_nil
    refine ⟨(false, c :: s), ?_⟩
    rw [List.nil_append]
    unfold scanExponentDigits
    split
    · rename_i heq
      exact absurd h.head (by rw [(List.cons.inj heq).1]; decide)
    · rename_i heq
      exact absurd h.head (by rw [(List.cons.inj heq).1]; decide)
    · rw [hscan]
      rfl
  · exact ⟨(false, s), by simp [scanExponentDigits, hscan, Except.map]⟩
  · exact ⟨(true, s), by simp [scanExponentDigits, hscan, Except.map]⟩

theorem scanExponent_append (h : Exponent s) (hrest : Stops rest) :
    ∃ exponent, scanExponent (s ++ rest) = .ok (exponent, rest) := by
  cases h with
  | none =>
    refine ⟨none, ?_⟩
    cases rest with
    | nil => rfl
    | cons c rest =>
      obtain ⟨-, -, hsmall, hlarge⟩ := hrest c rfl
      rw [List.nil_append, scanExponent, if_neg (by simp [hsmall, hlarge])]
  | @digits e sign s he hsign h =>
    obtain ⟨parts, hparts⟩ := scanExponentDigits_append hsign h fun c hc => (hrest c hc).1
    refine ⟨some parts, ?_⟩
    rw [List.cons_append, scanExponent, if_pos he, hparts]
    rfl

/-- An exponent ends a fraction, and what ends the number does if there is no exponent. -/
theorem stops_append_exponent (h : Exponent s) (hrest : Stops rest) :
    ∀ c ∈ (s ++ rest).head?, c.isDigit = false ∧ c ≠ '.' := by
  cases h with
  | none => exact fun c hc => ⟨(hrest c hc).1, (hrest c hc).2.1⟩
  | digits he =>
    rintro c ⟨⟩
    rcases he with rfl | rfl <;> decide

theorem not_isDigit_append_fraction (h : Fraction s)
    (hrest : ∀ c ∈ rest.head?, c.isDigit = false ∧ c ≠ '.') :
    ∀ c ∈ (s ++ rest).head?, c.isDigit = false := by
  cases h with
  | none => exact fun c hc => (hrest c hc).1
  | digits =>
    rintro c ⟨⟩
    decide

/-- A number of the grammar is scanned to its end. -/
theorem numberToken_append {whole fraction exponent : List Char} (hwhole : Whole whole)
    (hfraction : Fraction fraction) (hexponent : Exponent exponent) (hrest : Stops rest) :
    ∃ readable,
      numberToken (whole ++ (fraction ++ exponent) ++ rest) = (.number readable, rest) := by
  have hafter := stops_append_exponent hexponent hrest
  obtain ⟨digits, hdigits⟩ := scanFraction_append hfraction hafter
  obtain ⟨parts, hparts⟩ := scanExponent_append hexponent hrest
  refine ⟨!Numeral.tooLarge ⟨whole, digits, parts⟩, ?_⟩
  have hscan : scanNumeral (whole ++ (fraction ++ exponent) ++ rest) =
      .ok (⟨whole, digits, parts⟩, rest) := by
    rw [List.append_assoc, List.append_assoc, scanNumeral,
      scanWhole_append hwhole (not_isDigit_append_fraction hfraction hafter)]
    simp only [bind, Except.bind, hdigits, hparts]
    rfl
  rw [numberToken, hscan]

end Daybook.Json
