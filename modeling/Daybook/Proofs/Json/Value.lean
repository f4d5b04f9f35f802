import Daybook.Json.Token
import Daybook.Proofs.Json.Numeral
import Daybook.Proofs.Json.Quoted

/-!
# Values that are passed over

The grammar of values.  A value of the grammar is passed over to its end, whatever it is and however
deep it nests.
-/

namespace Daybook.Json

/-! ## The grammar of values -/

def Blanks (s : List Char) : Prop := ∀ c ∈ s, c = ' ' ∨ c = '\t' ∨ c = '\n' ∨ c = '\r'

def words : List (List Char × Token) :=
  [(['n', 'u', 'l', 'l'], .null), (['t', 'r', 'u', 'e'], .bool true),
    (['f', 'a', 'l', 's', 'e'], .bool false)]

abbrev MemberText := List Char × List Char

inductive Part
  | value
  | item
  | items
  | member (member : MemberText)
  | members (members : List MemberText)

/-- The text is a part of an object or array, or a value, by the rules of JSON. -/
inductive Written : Part → List Char → Prop
  | word {s : List Char} {token : Token} (h : (s, token) ∈ words) : Written .value s
  | number {s : List Char} (h : IsNumber s) : Written .value s
  | string {s : List Char} {us : List Nat} (h : Quoted s us) : Written .value ('"' :: (s ++ ['"']))
  | emptyArray {s : List Char} (h : Blanks s) : Written .value ('[' :: (s ++ [']']))
  | array {s : List Char} (h : Written .items s) : Written .value ('[' :: (s ++ [']']))
  | emptyObject {s : List Char} (h : Blanks s) : Written .value ('\x7b' :: (s ++ ['\x7d']))
  | object {s : List Char} {members : List MemberText} (h : Written (.members members) s) :
    Written .value ('\x7b' :: (s ++ ['\x7d']))
  | item {a s b : List Char} (ha : Blanks a) (h : Written .value s) (hb : Blanks b) :
    Written .item (a ++ (s ++ b))
  | lastItem {s : List Char} (h : Written .item s) : Written .items s
  | moreItems {s t : List Char} (h : Written .item s) (ht : Written .items t) :
    Written .items (s ++ ',' :: t)
  | member {a name b c s d : List Char} {us : List Nat} (ha : Blanks a) (hname : Quoted name us)
    (hb : Blanks b) (hc : Blanks c) (h : Written .value s) (hd : Blanks d) :
    Written (.member (name, s)) (a ++ '"' :: (name ++ '"' :: (b ++ ':' :: (c ++ (s ++ d)))))
  | lastMember {s : List Char} {member : MemberText} (h : Written (.member member) s) :
    Written (.members [member]) s
  | moreMembers {s t : List Char} {member : MemberText} {members : List MemberText}
    (h : Written (.member member) s) (ht : Written (.members members) t) :
    Written (.members (member :: members)) (s ++ ',' :: t)

/-- The text is an object by the rules of JSON, with these members. -/
inductive ObjectText : List Char → List MemberText → Prop
  | empty {a s b : List Char} (ha : Blanks a) (h : Blanks s) (hb : Blanks b) :
    ObjectText (a ++ '\x7b' :: (s ++ '\x7d' :: b)) []
  | members {a s b : List Char} {members : List MemberText} (ha : Blanks a)
    (h : Written (.members members) s) (hb : Blanks b) :
    ObjectText (a ++ '\x7b' :: (s ++ '\x7d' :: b)) members

/-! ## Tokens of a text -/

section Tokens

variable {s rest : List Char}

theorem isBlank_iff {c : Char} : isBlank c ↔ c = ' ' ∨ c = '\t' ∨ c = '\n' ∨ c = '\r' := by
  simp only [isBlank, Bool.or_eq_true, beq_iff_eq]
  tauto

/-- Blanks before a token change nothing. -/
theorem tokens_blanks (h : Blanks s) (rest : List Char) : tokens (s ++ rest) = tokens rest := by
  induction s with
  | nil => rfl
  | cons c s ih =>
    obtain ⟨hc, hs⟩ := List.forall_mem_cons.mp h
    rw [List.cons_append, tokens, if_pos (isBlank_iff.mpr hc), ih hs]

/-- Where a token starts, the tokens are this one and those of the rest. -/
theorem tokens_of_tokenFrom {c : Char} {token : Token} (hblank : isBlank c = false)
    (h : tokenFrom c s = (token, rest)) : tokens (c :: s) = token :: tokens rest := by
  rw [tokens, if_neg (by simp [hblank]), h]

/-- A quoted text is one token, whether or not it stands for a text. -/
theorem tokens_string {us : List Nat} (h : Quoted s us) (rest : List Char) :
    ∃ content, tokens ('"' :: (s ++ '"' :: rest)) = .string content :: tokens rest := by
  obtain ⟨content, htoken, -⟩ := stringToken_of_quoted h rest
  exact ⟨content, tokens_of_tokenFrom (by decide) htoken⟩

theorem tokens_of_standsFor {text : String} (h : StandsFor s text) (rest : List Char) :
    tokens ('"' :: (s ++ '"' :: rest)) = .string (some text) :: tokens rest :=
  tokens_of_tokenFrom (by decide) (stringToken_of_standsFor h rest)

theorem wordToken_append (word : List Char) (token : Token) (rest : List Char) :
    wordToken word token (word ++ rest) = (token, rest) := by
  induction word with
  | nil => rfl
  | cons c word ih => rw [List.cons_append, wordToken, if_pos rfl, ih]

theorem tokens_word {token : Token} (h : (s, token) ∈ words) (rest : List Char) :
    tokens (s ++ rest) = token :: tokens rest := by
  simp only [words, List.mem_cons, Prod.mk.injEq, List.not_mem_nil, or_false] at h
  rcases h with ⟨rfl, rfl⟩ | ⟨rfl, rfl⟩ | ⟨rfl, rfl⟩ <;>
    exact tokens_of_tokenFrom (by decide) (wordToken_append _ _ rest)

theorem tokenFrom_of_isDigit {c : Char} (h : c.isDigit) (s : List Char) :
    tokenFrom c s = numberToken (c :: s) := by
  unfold tokenFrom
  split
  case h_12 => rw [if_pos h]
  all_goals exact absurd h (by decide)

theorem isBlank_of_isDigit {c : Char} (h : c.isDigit) : isBlank c = false := by
  rw [Bool.eq_false_iff, Ne, isBlank_iff]
  rintro (rfl | rfl | rfl | rfl) <;> exact absurd h (by decide)

theorem Whole.exists_eq (h : Whole s) : ∃ c t, s = c :: t ∧ c.isDigit := by
  cases h with
  | zero => exact ⟨'0', [], rfl, by decide⟩
  | digits h => exact ⟨_, _, rfl, h.head⟩

theorem tokens_number (h : IsNumber s) (hrest : Stops rest) :
    ∃ readable, tokens (s ++ rest) = .number readable :: tokens rest := by
  obtain ⟨hsign, hwhole, hfraction, hexponent⟩ := h
  obtain ⟨readable, htoken⟩ := numberToken_append hwhole hfraction hexponent hrest
  refine ⟨readable, ?_⟩
  rcases hsign with rfl | rfl
  · obtain ⟨c, t, rfl, hdigit⟩ := hwhole.exists_eq
    refine tokens_of_tokenFrom (isBlank_of_isDigit hdigit) ?_
    rw [tokenFrom_of_isDigit hdigit]
    exact htoken
  · exact tokens_of_tokenFrom (by decide) htoken

-- A token of one character.
theorem tokens_mark {c : Char} {token : Token} (hblank : isBlank c = false)
    (h : tokenFrom c rest = (token, rest)) : tokens (c :: rest) = token :: tokens rest :=
  tokens_of_tokenFrom hblank h

/-- The name of a member and its colon. -/
theorem tokens_name {a name b c : List Char} {us : List Nat} (ha : Blanks a)
    (hname : Quoted name us) (hb : Blanks b) (hc : Blanks c) (rest : List Char) :
    ∃ content, (∀ text, StandsFor name text → content = some text) ∧
      tokens (a ++ '"' :: (name ++ '"' :: (b ++ ':' :: (c ++ rest)))) =
        .string content :: .colon :: tokens rest := by
  obtain ⟨content, htokens⟩ := tokens_string hname (b ++ ':' :: (c ++ rest))
  refine ⟨content, fun text htext => ?_, ?_⟩
  · rw [tokens_of_standsFor htext] at htokens
    simpa using htokens.symm
  · rw [tokens_blanks ha, htokens, tokens_blanks hb, tokens_mark (by decide) rfl, tokens_blanks hc]

-- A text in brackets of either kind.
theorem tokens_bracketed {c d : Char} {token : Token} (hblank : isBlank c = false)
    (h : ∀ rest, tokenFrom c rest = (token, rest)) :
    tokens (c :: (s ++ [d]) ++ rest) = token :: tokens (s ++ d :: rest) := by
  rw [List.cons_append, List.append_assoc, List.singleton_append, tokens_mark hblank (h _)]

end Tokens

/-! ## Passing over -/

/-- Passing over takes the tokens up to those after them, with this left to pass over. -/
inductive PassesOver : Skip → List Token → Option Skip → List Token → Prop
  | token {skip : Skip} {token : Token} {left : Option Skip} {rest : List Token}
    (h : skip.step token = .ok left) : PassesOver skip (token :: rest) left rest
  | trans {skip next : Skip} {left : Option Skip} {s t rest : List Token}
    (h : PassesOver skip s (some next) t) (h' : PassesOver next t left rest) :
    PassesOver skip s left rest

namespace Expected

def TakesValue (expected : Expected) : Prop := expected = .value ∨ expected = .valueOrEnd

def TakesKey (expected : Expected) : Prop := expected = .key ∨ expected = .keyOrEnd

end Expected

section PassesOver

variable {expected : Expected} {enclosing : List Bracket} {token : Token} {s rest : List Char}

theorem Skip.step_word (hexpected : expected.TakesValue) (h : (s, token) ∈ words) :
    Skip.step ⟨expected, enclosing⟩ token = .ok (afterValue enclosing) := by
  simp only [words, List.mem_cons, Prod.mk.injEq, List.not_mem_nil, or_false] at h
  rcases hexpected with rfl | rfl <;> rcases h with ⟨-, rfl⟩ | ⟨-, rfl⟩ | ⟨-, rfl⟩ <;> rfl

theorem Skip.step_number (hexpected : expected.TakesValue) (readable : Bool) :
    Skip.step ⟨expected, enclosing⟩ (.number readable) = .ok (afterValue enclosing) := by
  rcases hexpected with rfl | rfl <;> rfl

theorem Skip.step_string (hexpected : expected.TakesValue) (content : Option String) :
    Skip.step ⟨expected, enclosing⟩ (.string content) = .ok (afterValue enclosing) := by
  rcases hexpected with rfl | rfl <;> rfl

theorem Skip.step_openArray (hexpected : expected.TakesValue) :
    Skip.step ⟨expected, enclosing⟩ .openArray =
      .ok (some ⟨.valueOrEnd, .array :: enclosing⟩) := by
  rcases hexpected with rfl | rfl <;> rfl

theorem Skip.step_openObject (hexpected : expected.TakesValue) :
    Skip.step ⟨expected, enclosing⟩ .openObject =
      .ok (some ⟨.keyOrEnd, .object :: enclosing⟩) := by
  rcases hexpected with rfl | rfl <;> rfl

theorem Skip.step_key (hexpected : expected.TakesKey) (content : Option String) :
    Skip.step ⟨expected, enclosing⟩ (.string content) = .ok (some ⟨.colon, enclosing⟩) := by
  rcases hexpected with rfl | rfl <;> rfl

/-- Blanks stop a number, and what comes after them may do so without any. -/
theorem stops_of_blanks (h : Blanks s) (hrest : Stops rest) : Stops (s ++ rest) := by
  cases s with
  | nil => exact hrest
  | cons c s =>
    rintro d ⟨⟩
    rcases h c List.mem_cons_self with rfl | rfl | rfl | rfl <;> decide

theorem stops_cons {c : Char} (h : c = ',' ∨ c = ']' ∨ c = '\x7d') : Stops (c :: rest) := by
  rintro d ⟨⟩
  rcases h with rfl | rfl | rfl <;> decide

/-- What passing over does with a part: items and members are passed over to the bracket that closes
them, and that bracket with them. -/
def PassedOver : Part → List Char → Prop
  | .value, s => ∀ (expected : Expected) (enclosing : List Bracket) (rest : List Char),
      expected.TakesValue → Stops rest →
        PassesOver ⟨expected, enclosing⟩ (tokens (s ++ rest)) (Skip.afterValue enclosing)
          (tokens rest)
  | .item, s => ∀ (expected : Expected) (enclosing : List Bracket) (rest : List Char),
      expected.TakesValue → Stops rest →
        PassesOver ⟨expected, .array :: enclosing⟩ (tokens (s ++ rest))
          (some ⟨.commaOrEnd, .array :: enclosing⟩) (tokens rest)
  | .items, s => ∀ (expected : Expected) (enclosing : List Bracket) (rest : List Char),
      expected.TakesValue →
        PassesOver ⟨expected, .array :: enclosing⟩ (tokens (s ++ ']' :: rest))
          (Skip.afterValue enclosing) (tokens rest)
  | .member _, s => ∀ (expected : Expected) (enclosing : List Bracket) (rest : List Char),
      expected.TakesKey → Stops rest →
        PassesOver ⟨expected, .object :: enclosing⟩ (tokens (s ++ rest))
          (some ⟨.commaOrEnd, .object :: enclosing⟩) (tokens rest)
  | .members _, s => ∀ (expected : Expected) (enclosing : List Bracket) (rest : List Char),
      expected.TakesKey →
        PassesOver ⟨expected, .object :: enclosing⟩ (tokens (s ++ '\x7d' :: rest))
          (Skip.afterValue enclosing) (tokens rest)

-- The induction is on the derivation; what encloses a part and what follows it are any.
theorem passedOver_of_written {part : Part} (h : Written part s) : PassedOver part s := by
  induction h with
  | word h =>
    intro expected enclosing rest hexpected _
    rw [tokens_word h]
    exact .token (Skip.step_word hexpected h)
  | number h =>
    intro expected enclosing rest hexpected hrest
    obtain ⟨readable, htokens⟩ := tokens_number h hrest
    rw [htokens]
    exact .token (Skip.step_number hexpected readable)
  | string h =>
    intro expected enclosing rest hexpected _
    obtain ⟨content, htokens⟩ := tokens_string h rest
    rw [List.cons_append, List.append_assoc, List.singleton_append, htokens]
    exact .token (Skip.step_string hexpected content)
  | emptyArray h =>
    intro expected enclosing rest hexpected _
    rw [tokens_bracketed (by decide) fun _ => rfl, tokens_blanks h, tokens_mark (by decide) rfl]
    exact .trans (.token (Skip.step_openArray hexpected)) (.token rfl)
  -- What is open stays open until its own bracket comes.
  | array _ ih =>
    intro expected enclosing rest hexpected _
    rw [tokens_bracketed (by decide) fun _ => rfl]
    exact .trans (.token (Skip.step_openArray hexpected)) (ih .valueOrEnd enclosing rest (.inr rfl))
  | emptyObject h =>
    intro expected enclosing rest hexpected _
    rw [tokens_bracketed (by decide) fun _ => rfl, tokens_blanks h, tokens_mark (by decide) rfl]
    exact .trans (.token (Skip.step_openObject hexpected)) (.token rfl)
  | object _ ih =>
    intro expected enclosing rest hexpected _
    rw [tokens_bracketed (by decide) fun _ => rfl]
    exact .trans (.token (Skip.step_openObject hexpected)) (ih .keyOrEnd enclosing rest (.inr rfl))
  | item ha _ hb ih =>
    intro expected enclosing rest hexpected hrest
    rw [List.append_assoc, tokens_blanks ha, List.append_assoc, ← tokens_blanks hb rest]
    exact ih expected (.array :: enclosing) _ hexpected (stops_of_blanks hb hrest)
  | lastItem _ ih =>
    intro expected enclosing rest hexpected
    refine .trans (ih expected enclosing _ hexpected (stops_cons (.inr (.inl rfl)))) ?_
    rw [tokens_mark (by decide) rfl]
    exact .token rfl
  | moreItems _ _ ih ihmore =>
    intro expected enclosing rest hexpected
    rw [List.append_assoc, List.cons_append]
    refine .trans (ih expected enclosing _ hexpected (stops_cons (.inl rfl))) ?_
    rw [tokens_mark (by decide) rfl]
    exact .trans (.token rfl) (ihmore .value enclosing rest (.inl rfl))
  | @member _ _ _ _ s d _ ha hname hb hc _ hd ih =>
    intro expected enclosing rest hexpected hrest
    obtain ⟨content, -, htokens⟩ := tokens_name ha hname hb hc (s ++ (d ++ rest))
    simp only [List.append_assoc, List.cons_append]
    rw [htokens, ← tokens_blanks hd rest]
    refine .trans (.token (Skip.step_key hexpected content)) (.trans (.token rfl) ?_)
    exact ih .value (.object :: enclosing) _ (.inl rfl) (stops_of_blanks hd hrest)
  | lastMember _ ih =>
    intro expected enclosing rest hexpected
    refine .trans (ih expected enclosing _ hexpected (stops_cons (.inr (.inr rfl)))) ?_
    rw [tokens_mark (by decide) rfl]
    exact .token rfl
  | moreMembers _ _ ih ihmore =>
    intro expected enclosing rest hexpected
    rw [List.append_assoc, List.cons_append]
    refine .trans (ih expected enclosing _ hexpected (stops_cons (.inl rfl))) ?_
    rw [tokens_mark (by decide) rfl]
    exact .trans (.token rfl) (ihmore .key enclosing rest (.inl rfl))

/-- A value of the grammar is passed over to its end. -/
theorem passesOver_of_value (h : Written .value s) (hrest : Stops rest) :
    PassesOver {} (tokens (s ++ rest)) none (tokens rest) :=
  passedOver_of_written h .value [] rest (.inl rfl) hrest

end PassesOver

end Daybook.Json
