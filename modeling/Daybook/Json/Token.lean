import Daybook.Json.Numeral
import Daybook.Json.Quoted

/-!
# JSON tokens

A text as a row of tokens, and the values that are passed over in it.
-/

namespace Daybook.Json

/-! ## Tokens

A token that breaks off ends the row.  Where readers and those who only pass over a value disagree
about a token, it holds both opinions.
-/

inductive Token
  | openArray
  | closeArray
  | openObject
  | closeObject
  | comma
  | colon
  | null
  | bool (value : Bool)
  -- A number, which a reader may be unable to hold.
  | number (readable : Bool)
  -- A string, of which there is no text if it has half a surrogate pair.
  | string (content : Option String)
  -- A string with a fault: one for a reader and one for who passes over.
  | brokenString (reader passer : Fault)
  -- A word or number with a fault, or a character that starts no token.
  | broken (reader passer : Fault)
deriving DecidableEq

def isBlank (c : Char) : Bool :=
  c == ' ' || c == '\n' || c == '\t' || c == '\r'

def wordToken (word : List Char) (token : Token) : List Char → Token × List Char
  | s =>
    match word, s with
    | [], s => (token, s)
    | _, [] => (.broken .truncated .truncated, [])
    | w :: word, c :: s =>
      if w = c then wordToken word token s else (.broken .malformed .malformed, [])

def numberToken (s : List Char) : Token × List Char :=
  match scanNumeral s with
  | .ok (numeral, rest) => (.number (!numeral.tooLarge), rest)
  | .error [] => (.broken .truncated .malformed, [])
  | .error _ => (.broken .malformed .malformed, [])

def stringToken (s : List Char) : Token × List Char :=
  match scanString s with
  | (pieces, .ok rest) =>
    match assemble pieces with
    | .text content => (.string (some (String.ofList content)), rest)
    | _ => (.string none, rest)
  | (pieces, .error fault) =>
    match assemble pieces with
    | .unpaired => (.brokenString .malformed fault, [])
    | _ => (.brokenString fault fault, [])

def tokenFrom (c : Char) (s : List Char) : Token × List Char :=
  match c with
  | '[' => (.openArray, s)
  | ']' => (.closeArray, s)
  | '\x7b' => (.openObject, s)
  | '\x7d' => (.closeObject, s)
  | ',' => (.comma, s)
  | ':' => (.colon, s)
  | 'n' => wordToken ['u', 'l', 'l'] .null s
  | 't' => wordToken ['r', 'u', 'e'] (.bool true) s
  | 'f' => wordToken ['a', 'l', 's', 'e'] (.bool false) s
  | '"' => stringToken s
  | '-' => numberToken s
  | c => if c.isDigit then numberToken (c :: s) else (.broken .malformed .malformed, [])

/-! ### Each token takes some of the text -/

theorem length_of_wordToken (word : List Char) (token : Token) (s : List Char) :
    (wordToken word token s).2.length ≤ s.length := by
  induction word generalizing s with
  | nil => simp [wordToken]
  | cons w word ih =>
    cases s with
    | nil => simp [wordToken]
    | cons c s =>
      rw [wordToken]
      split
      · exact Nat.le_succ_of_le (ih s)
      · simp

theorem length_of_numberToken (c : Char) (s : List Char) :
    (numberToken (c :: s)).2.length ≤ s.length := by
  unfold numberToken
  split
  · exact Nat.le_of_lt_succ (length_of_scanNumeral ‹_›)
  · simp
  · simp

theorem length_of_numberToken_le (s : List Char) : (numberToken s).2.length ≤ s.length := by
  cases s with
  | nil => simp [numberToken, scanNumeral, scanWhole, scanDigits, bind, Except.bind]
  | cons c s => exact Nat.le_succ_of_le (length_of_numberToken c s)

theorem length_of_stringToken (s : List Char) : (stringToken s).2.length ≤ s.length := by
  unfold stringToken
  split
  · rename_i pieces rest h
    have := length_of_scanString (congrArg Prod.snd h)
    split <;> simp <;> omega
  · split <;> simp

/-- A token never gives text back, so that the rest is shorter than the text it was read from. -/
theorem length_of_tokenFrom (c : Char) (s : List Char) :
    (tokenFrom c s).2.length ≤ s.length := by
  unfold tokenFrom
  split <;> first
    | exact Nat.le_refl _
    | exact length_of_wordToken _ _ _
    | exact length_of_stringToken _
    | exact length_of_numberToken_le _
    | skip
  split
  · exact length_of_numberToken _ _
  · simp

def tokens : List Char → List Token
  | [] => []
  | c :: s =>
    if isBlank c then tokens s
    else
      let next := tokenFrom c s
      next.1 :: tokens next.2
termination_by s => s.length
decreasing_by
  · simp
  · exact Nat.lt_succ_of_le (length_of_tokenFrom c s)

/-! ## Passing over values

A value that nobody asked for still has to be a value.  It is passed over token by token, with the
brackets that are open kept on a stack, so it may nest as deep as it likes.
-/

inductive Bracket
  | array
  | object
deriving DecidableEq, Repr

inductive Expected
  | value
  | valueOrEnd
  | key
  | keyOrEnd
  | colon
  | commaOrEnd
deriving DecidableEq, Repr

structure Skip where
  expected : Expected := .value
  enclosing : List Bracket := []
deriving DecidableEq

namespace Skip

-- What is left to pass over once a value within the brackets is complete.
def afterValue : List Bracket → Option Skip
  | [] => none
  | enclosing => some { expected := .commaOrEnd, enclosing }

def close (skip : Skip) (bracket : Bracket) : Except Fault (Option Skip) :=
  match skip.enclosing with
  | innermost :: outer =>
    if innermost = bracket then .ok (afterValue outer) else .error .malformed
  | [] => .error .malformed

def beginValue (skip : Skip) : Token → Except Fault (Option Skip)
  | .null | .bool _ | .number _ | .string _ => .ok (afterValue skip.enclosing)
  | .openArray => .ok (some { expected := .valueOrEnd, enclosing := .array :: skip.enclosing })
  | .openObject => .ok (some { expected := .keyOrEnd, enclosing := .object :: skip.enclosing })
  | .brokenString _ passer | .broken _ passer => .error passer
  | _ => .error .malformed

/-- Takes a token.  Nothing is left when it completes the value. -/
def step (skip : Skip) (token : Token) : Except Fault (Option Skip) :=
  match skip.expected, token with
  | .value, token => skip.beginValue token
  | .valueOrEnd, .closeArray => skip.close .array
  | .valueOrEnd, token => skip.beginValue token
  | .keyOrEnd, .closeObject => skip.close .object
  | .key, .string _ | .keyOrEnd, .string _ => .ok (some { skip with expected := .colon })
  | .key, .brokenString _ passer | .keyOrEnd, .brokenString _ passer => .error passer
  | .colon, .colon => .ok (some { skip with expected := .value })
  | .commaOrEnd, .comma =>
    match skip.enclosing with
    | .object :: _ => .ok (some { skip with expected := .key })
    | _ => .ok (some { skip with expected := .value })
  | .commaOrEnd, .closeArray => skip.close .array
  | .commaOrEnd, .closeObject => skip.close .object
  | _, _ => .error .malformed

end Skip

end Daybook.Json
