/-!
# JSON numbers

A number is scanned by the grammar of JSON.  A reader has to be able to hold it, so it also must not
exceed the largest number of double precision.
-/

namespace Daybook.Json

/-! ## Faults

The three ways in which a text fails to be the JSON that is asked for.
-/

inductive Fault
  -- The text breaks the rules of JSON.
  | malformed
  -- The text keeps the rules so far, but a value is not of the kind that is asked for.
  | mismatch
  | truncated
deriving DecidableEq, Repr

structure Numeral where
  whole : List Char
  fraction : List Char := []
  -- Whether the exponent is negative, and its digits.
  exponent : Option (Bool × List Char) := none
deriving DecidableEq

/-- One or more digits and the text after them, or the text where a digit is missing. -/
def scanDigits (s : List Char) : Except (List Char) (List Char × List Char) :=
  match s.takeWhile Char.isDigit with
  | [] => .error s
  | digits => .ok (digits, s.dropWhile Char.isDigit)

def scanWhole (s : List Char) : Except (List Char) (List Char × List Char) :=
  match scanDigits s with
  | .ok ('0' :: _ :: _, _) => .error (s.drop 1)
  | result => result

def scanFraction : List Char → Except (List Char) (List Char × List Char)
  | '.' :: s => scanDigits s
  | s => .ok ([], s)

def scanExponentDigits : List Char → Except (List Char) ((Bool × List Char) × List Char)
  | '+' :: s => (scanDigits s).map fun (digits, rest) => ((false, digits), rest)
  | '-' :: s => (scanDigits s).map fun (digits, rest) => ((true, digits), rest)
  | s => (scanDigits s).map fun (digits, rest) => ((false, digits), rest)

def scanExponent : List Char → Except (List Char) (Option (Bool × List Char) × List Char)
  | [] => .ok (none, [])
  | e :: s =>
    if e = 'e' ∨ e = 'E' then (scanExponentDigits s).map fun (parts, rest) => (some parts, rest)
    else .ok (none, e :: s)

/-- A number without its sign and the text after it, or the text where a digit is missing or one too
many. -/
def scanNumeral (s : List Char) : Except (List Char) (Numeral × List Char) := do
  let (whole, s) ← scanWhole s
  let (fraction, s) ← scanFraction s
  let (exponent, s) ← scanExponent s
  return ({ whole, fraction, exponent }, s)

/-! ## The largest number -/

def digitValue (c : Char) : Nat := c.toNat - '0'.toNat

/-- As many leading digits as fit 64 bits, appended to `acc`, and how many were left out. -/
def significant (acc : Nat) : List Char → Nat × Nat
  | [] => (acc, 0)
  | c :: s =>
    let next := 10 * acc + digitValue c
    if next ≤ 0xFFFFFFFFFFFFFFFF then significant next s else (acc, s.length + 1)

/-- The nearest number of 53 significant bits; of two the even one. -/
def roundToDouble (n : Nat) : Nat :=
  let spare := n.log2 + 1 - 53
  let unit := Nat.pow 2 spare
  let quotient := n / unit
  let remainder := n % unit
  if unit < 2 * remainder ∨ (2 * remainder = unit ∧ quotient % 2 = 1) then (quotient + 1) * unit
  else quotient * unit

-- The least product that rounds beyond the largest number of double precision.
def doubleOverflow : Nat := Nat.pow 2 1024 - Nat.pow 2 970

namespace Numeral

/-- The leading digits as a whole number, and the power of ten to multiply it by before the
exponent. -/
def significand (numeral : Numeral) : Nat × Int :=
  let (whole, dropped) := significant 0 numeral.whole
  let (digits, ignored) := significant whole numeral.fraction
  (digits, dropped - (numeral.fraction.length - ignored : Nat))

def exponentValue (digits : List Char) : Option Nat :=
  digits.foldl (fun acc c => acc.bind fun n =>
    let next := 10 * n + digitValue c
    if next ≤ 0x7FFFFFFF then some next else none) (some 0)

-- Double precision cannot hold `digits` times ten to the power `power`.
def overflows (digits : Nat) (power : Int) : Bool :=
  digits ≠ 0 && 0 ≤ power &&
    (308 < power || doubleOverflow ≤ roundToDouble digits * roundToDouble (Nat.pow 10 power.toNat))

def tooLarge (numeral : Numeral) : Bool :=
  let (digits, power) := numeral.significand
  match numeral.exponent with
  | none => overflows digits power
  | some (negative, exponent) =>
    match exponentValue exponent with
    | none => digits ≠ 0 && !negative
    | some n => overflows digits (if negative then power - n else power + n)

end Numeral

/-! ## What is left after a number -/

theorem exists_of_map_eq_ok {ε α β : Type} {f : α → β} {x : Except ε α} {b : β}
    (h : x.map f = .ok b) : ∃ a, x = .ok a ∧ f a = b := by
  cases x with
  | error e => cases h
  | ok a => exact ⟨a, rfl, by cases h; rfl⟩

theorem length_of_scanDigits {s digits rest : List Char} (h : scanDigits s = .ok (digits, rest)) :
    rest.length < s.length := by
  unfold scanDigits at h
  split at h
  · cases h
  · rename_i hne
    cases h
    have := congrArg List.length (s.takeWhile_append_dropWhile (p := Char.isDigit))
    have := List.length_pos_iff.mpr hne
    simp only [List.length_append] at *
    omega

theorem length_of_scanWhole {s digits rest : List Char} (h : scanWhole s = .ok (digits, rest)) :
    rest.length < s.length := by
  unfold scanWhole at h
  split at h
  · cases h
  · exact length_of_scanDigits h

theorem length_of_scanFraction {s digits rest : List Char}
    (h : scanFraction s = .ok (digits, rest)) : rest.length ≤ s.length := by
  unfold scanFraction at h
  split at h
  · exact Nat.le_of_lt (Nat.lt_succ_of_lt (length_of_scanDigits h))
  · cases h
    exact Nat.le_refl _

theorem length_of_scanExponentDigits {s rest : List Char} {parts : Bool × List Char}
    (h : scanExponentDigits s = .ok (parts, rest)) : rest.length < s.length := by
  unfold scanExponentDigits at h
  split at h <;> obtain ⟨⟨digits, rest⟩, hd, he⟩ := exists_of_map_eq_ok h <;> cases he
  · exact Nat.lt_succ_of_lt (length_of_scanDigits hd)
  · exact Nat.lt_succ_of_lt (length_of_scanDigits hd)
  · exact length_of_scanDigits hd

theorem length_of_scanExponent {s rest : List Char} {exponent : Option (Bool × List Char)}
    (h : scanExponent s = .ok (exponent, rest)) : rest.length ≤ s.length := by
  unfold scanExponent at h
  split at h
  · cases h
    exact Nat.le_refl _
  · split at h
    · obtain ⟨⟨parts, rest⟩, hd, he⟩ := exists_of_map_eq_ok h
      cases he
      exact Nat.le_of_lt (Nat.lt_succ_of_lt (length_of_scanExponentDigits hd))
    · cases h
      exact Nat.le_refl _

/-- A numeral takes at least its first digit, so that reading on ends. -/
theorem length_of_scanNumeral {s rest : List Char} {numeral : Numeral}
    (h : scanNumeral s = .ok (numeral, rest)) : rest.length < s.length := by
  simp only [scanNumeral, bind, Except.bind, pure, Except.pure] at h
  split at h
  · cases h
  · rename_i whole hwhole
    split at h
    · cases h
    · rename_i fraction hfraction
      split at h
      · cases h
      · rename_i exponent hexponent
        cases h
        have := length_of_scanWhole hwhole
        have := length_of_scanFraction hfraction
        have := length_of_scanExponent hexponent
        omega

end Daybook.Json
