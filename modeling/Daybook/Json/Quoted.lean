import Daybook.Json.Numeral
import Daybook.Text.Utf8

/-!
# JSON strings

A string is scanned into pieces, which are characters and the UTF-16 units of `\u` escapes, and the
pieces are then put together.  One who only passes over a string needs the scan alone: half a
surrogate pair does not stop a scan, but no text can be made of it.
-/

namespace Daybook.Json

inductive Piece
  | char (c : Char)
  | unit (code : Nat)
deriving DecidableEq

def hexDigit? (c : Char) : Option Nat :=
  if c.isDigit then some (c.toNat - '0'.toNat)
  else if 'a' ≤ c ∧ c ≤ 'f' then some (c.toNat - 'a'.toNat + 10)
  else if 'A' ≤ c ∧ c ≤ 'F' then some (c.toNat - 'A'.toNat + 10)
  else none

def hexUnit? (a b c d : Char) : Option Nat := do
  return (((← hexDigit? a) * 16 + (← hexDigit? b)) * 16 + (← hexDigit? c)) * 16 + (← hexDigit? d)

def shortEscape? : Char → Option Char
  | '"' => some '"'
  | '\\' => some '\\'
  | '/' => some '/'
  | 'b' => some '\x08'
  | 'f' => some '\x0c'
  | 'n' => some '\n'
  | 'r' => some '\r'
  | 't' => some '\t'
  | _ => none

def fewerThanFourBytes (s : List Char) : Bool :=
  (Text.Utf8.bytes (s.take 4)).length < 4

/-- The pieces of a string up to its closing quote and the text after that, or the pieces up to a
fault.  The opening quote has been read. -/
def scanString : List Char → List Piece × Except Fault (List Char)
  | [] => ([], .error .truncated)
  | '"' :: s => ([], .ok s)
  | '\\' :: 'u' :: a :: b :: c :: d :: s =>
    match hexUnit? a b c d with
    | some code => let (pieces, rest) := scanString s; (.unit code :: pieces, rest)
    | none =>
      ([], .error (if fewerThanFourBytes (a :: b :: c :: d :: s) then .truncated else .malformed))
  | '\\' :: 'u' :: s => ([], .error (if fewerThanFourBytes s then .truncated else .malformed))
  | '\\' :: e :: s =>
    match shortEscape? e with
    | some c => let (pieces, rest) := scanString s; (.char c :: pieces, rest)
    | none => ([], .error .malformed)
  | ['\\'] => ([], .error .truncated)
  | c :: s =>
    if c.toNat < 0x20 then ([], .error .malformed)
    else let (pieces, rest) := scanString s; (.char c :: pieces, rest)

def isLeading (code : Nat) : Bool := 0xD800 ≤ code && code < 0xDC00

def isTrailing (code : Nat) : Bool := 0xDC00 ≤ code && code < 0xE000

inductive Assembled
  | text (content : List Char)
  | unpaired
  -- The last piece is a surrogate whose partner may still follow.
  | halfPair
deriving DecidableEq

def Assembled.cons (c : Char) : Assembled → Assembled
  | text content => text (c :: content)
  | other => other

def assemble : List Piece → Assembled
  | [] => .text []
  | .char c :: pieces => (assemble pieces).cons c
  | .unit code :: pieces =>
    if isTrailing code then .unpaired
    else if isLeading code then
      match pieces with
      | [] => .halfPair
      | .unit next :: pieces =>
        if isTrailing next then
          (assemble pieces).cons (Char.ofNat (0x10000 + (code - 0xD800) * 0x400 + (next - 0xDC00)))
        else .unpaired
      | .char _ :: _ => .unpaired
    else (assemble pieces).cons (Char.ofNat code)

-- The text after a string is shorter than the string and the text.
theorem length_of_scanString {s rest : List Char} (h : (scanString s).2 = .ok rest) :
    rest.length < s.length := by
  fun_induction scanString s <;> simp_all <;> omega

end Daybook.Json
