/-!
# Decimal numerals

Whole numbers written in ASCII digits, read into a range.  A reader goes from left to right and
reports the first fault: a character that is no digit, or the digit that leaves the range.
-/

namespace Daybook.Text

inductive NumeralFault
  | empty
  | invalidDigit
  | tooLarge
  | tooSmall
deriving DecidableEq, Repr

namespace NumeralFault

def message : NumeralFault → String
  | empty => "cannot parse integer from empty string"
  | invalidDigit => "invalid digit found in string"
  | tooLarge => "number too large to fit in target type"
  | tooSmall => "number too small to fit in target type"

end NumeralFault

/-- Continues the number `acc` with the digits of a text, as long as it stays within `bound`.  A
number that outgrows the bound is the fault `outgrown`. -/
def digitsWithin (bound : Nat) (outgrown : NumeralFault) :
    Nat → List Char → Except NumeralFault Nat
  | acc, [] => .ok acc
  | acc, c :: s =>
    if c.isDigit then
      let next := 10 * acc + (c.toNat - '0'.toNat)
      if next ≤ bound then digitsWithin bound outgrown next s else .error outgrown
    else .error .invalidDigit

def magnitude (bound : Nat) (outgrown : NumeralFault) : List Char → Except NumeralFault Nat
  | [] => .error .invalidDigit
  | s => digitsWithin bound outgrown 0 s

-- A number from 0 to `bound`, with an optional plus sign.
def readNat (bound : Nat) : List Char → Except NumeralFault Nat
  | [] => .error .empty
  | '+' :: s => magnitude bound .tooLarge s
  | s => magnitude bound .tooLarge s

def readInt64 : List Char → Except NumeralFault Int64
  | [] => .error .empty
  | '+' :: s => (magnitude 0x7FFFFFFFFFFFFFFF .tooLarge s).map fun n => .ofInt n
  | '-' :: s => (magnitude 0x8000000000000000 .tooSmall s).map fun n => .ofInt (-n)
  | s => (magnitude 0x7FFFFFFFFFFFFFFF .tooLarge s).map fun n => .ofInt n

/-! ## What a reader accepts -/

theorem digitsWithin_le {bound acc n : Nat} {outgrown : NumeralFault} {s : List Char}
    (hacc : acc ≤ bound) (h : digitsWithin bound outgrown acc s = .ok n) : n ≤ bound := by
  induction s generalizing acc with
  | nil => simp_all [digitsWithin]
  | cons c s ih =>
    simp only [digitsWithin] at h
    split at h
    · split at h
      · exact ih ‹_› h
      · cases h
    · cases h

theorem magnitude_le {bound n : Nat} {outgrown : NumeralFault} {s : List Char}
    (h : magnitude bound outgrown s = .ok n) : n ≤ bound := by
  cases s with
  | nil => cases h
  | cons c s => exact digitsWithin_le (Nat.zero_le _) h

/-- A number that was read is within the bound. -/
theorem readNat_le {bound n : Nat} {s : List Char} (h : readNat bound s = .ok n) : n ≤ bound := by
  unfold readNat at h
  split at h
  · cases h
  · exact magnitude_le h
  · exact magnitude_le h

end Daybook.Text
