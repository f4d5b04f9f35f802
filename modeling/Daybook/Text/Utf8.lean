/-!
# Bytes as characters

What the bytes of a URL stand for: percent escapes are bytes, and bytes are read as UTF-8.
-/

namespace Daybook.Text.Utf8

/-! ## UTF-8

A lead byte says how many bytes follow it and in which ranges they lie; the ranges leave out
overlong forms, surrogates and everything above the last code point.  Where bytes break off, what
was read of a character counts as one ill-formed part, and reading goes on with the byte that did
not fit.
-/

def within (range : Nat × Nat) (byte : UInt8) : Bool :=
  range.1 ≤ byte.toNat && byte.toNat ≤ range.2

def continuation : Nat × Nat := (0x80, 0xBF)

/-- The bits that a lead byte holds, and the ranges of the bytes that must follow. -/
def lead? (byte : UInt8) : Option (Nat × List (Nat × Nat)) :=
  let n := byte.toNat
  if n < 0x80 then some (n, [])
  else if n < 0xC2 then none
  else if n < 0xE0 then some (n - 0xC0, [continuation])
  else if n = 0xE0 then some (n - 0xE0, [(0xA0, 0xBF), continuation])
  else if n = 0xED then some (n - 0xE0, [(0x80, 0x9F), continuation])
  else if n < 0xF0 then some (n - 0xE0, [continuation, continuation])
  else if n = 0xF0 then some (n - 0xF0, [(0x90, 0xBF), continuation, continuation])
  else if n < 0xF4 then some (n - 0xF0, [continuation, continuation, continuation])
  else if n = 0xF4 then some (n - 0xF0, [(0x80, 0x8F), continuation, continuation])
  else none

/-- Adds the bits of the bytes that follow a lead byte, and gives back what stands after them.
There is no code point if a byte is missing or out of its range. -/
def follow (bits : Nat) : List (Nat × Nat) → List UInt8 → Option Nat × List UInt8
  | [], bytes => (some bits, bytes)
  | _ :: _, [] => (none, [])
  | range :: ranges, byte :: bytes =>
    if within range byte then follow (64 * bits + (byte.toNat - 0x80)) ranges bytes
    else (none, byte :: bytes)

theorem length_follow_le (bits : Nat) (ranges : List (Nat × Nat)) (bytes : List UInt8) :
    (follow bits ranges bytes).2.length ≤ bytes.length := by
  induction bytes generalizing bits ranges with
  | nil => cases ranges <;> simp [follow]
  | cons byte bytes ih =>
    cases ranges with
    | nil => simp [follow]
    | cons range ranges =>
      simp only [follow]
      split
      · exact Nat.le_succ_of_le (ih _ _)
      · simp

/-- The characters that bytes stand for, with nothing in the place of each ill-formed part. -/
def decode : List UInt8 → List (Option Char)
  | [] => []
  | byte :: bytes =>
    match lead? byte with
    | none => none :: decode bytes
    | some (bits, ranges) =>
      let next := follow bits ranges bytes
      next.1.map Char.ofNat :: decode next.2
termination_by bytes => bytes.length
decreasing_by
  · simp
  · exact Nat.lt_succ_of_le (length_follow_le _ _ _)

def text? (bytes : List UInt8) : Option (List Char) :=
  (decode bytes).mapM id

-- The text that bytes stand for, with the replacement character for each ill-formed part.
def textWithReplacements (bytes : List UInt8) : List Char :=
  (decode bytes).map fun c => c.getD '\uFFFD'

def bytes (s : List Char) : List UInt8 :=
  s.flatMap String.utf8EncodeChar

end Daybook.Text.Utf8

namespace Daybook.Text.Percent

/-! ## Percent escapes

A byte may be written as a percent sign and two hexadecimal digits.  A percent sign that no two such
digits follow stands for itself.
-/

def digit? (byte : UInt8) : Option UInt8 :=
  if 0x30 ≤ byte ∧ byte ≤ 0x39 then some (byte - 0x30)
  else if 0x41 ≤ byte ∧ byte ≤ 0x46 then some (byte - 0x41 + 10)
  else if 0x61 ≤ byte ∧ byte ≤ 0x66 then some (byte - 0x61 + 10)
  else none

def byte? (high low : UInt8) : Option UInt8 := do
  return 16 * (← digit? high) + (← digit? low)

-- Replaces the escapes in a row of bytes by what they stand for.
def decode : List UInt8 → List UInt8
  | percent :: high :: low :: bytes =>
    if percent = 0x25 then
      match byte? high low with
      | some byte => byte :: decode bytes
      | none => percent :: decode (high :: low :: bytes)
    else percent :: decode (high :: low :: bytes)
  | bytes => bytes

end Daybook.Text.Percent
