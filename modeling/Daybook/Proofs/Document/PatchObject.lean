import Daybook.Proofs.Json.Value
import Daybook.Proofs.Service.Patch

/-!
# Patches as objects

What a patch is read as from an object: the members `name` and `description` count, wherever they
stand and however they are written, and all others are passed over.
-/

namespace Daybook.Document.TermPatch

open Json (MemberText ObjectText PassesOver StandsFor Stops Token Written tokens)

/-! ## Members -/

/-- The text of a value that is null, or a string that stands for the text. -/
inductive Gives : List Char → Option String → Prop
  | null : Gives ['n', 'u', 'l', 'l'] none
  | text {s : List Char} {text : String} (h : StandsFor s text) :
    Gives ('"' :: (s ++ ['"'])) (some text)

/-- At most one of the members has the name, and its value is this; without one there is none. -/
inductive Holds (name : String) : List MemberText → Option (Option String) → Prop
  | nil : Holds name [] none
  | this {member : MemberText} {members : List MemberText} {value : Option String}
    (hname : StandsFor member.1 name) (hvalue : Gives member.2 value)
    (h : Holds name members none) : Holds name (member :: members) (some value)
  | other {member : MemberText} {members : List MemberText} {value : Option (Option String)}
    (hname : ¬StandsFor member.1 name) (h : Holds name members value) :
    Holds name (member :: members) value

/-- What is read of a name so far becomes what it is at the end: a member with the name is still to
come, and nothing is read yet, or there is none to come. -/
inductive Settles (name : String) (members : List MemberText) :
    Option (Option String) → Option (Option String) → Prop
  | read {value : Option String} (h : Holds name members (some value)) :
    Settles name members none (some value)
  | kept {value : Option (Option String)} (h : Holds name members none) :
    Settles name members value value

section Settles

variable {name : String} {m : MemberText} {members : List MemberText}
  {before after : Option (Option String)}

theorem settles_of_holds (h : Holds name members after) : Settles name members none after := by
  cases after with
  | none => exact .kept h
  | some value => exact .read h

theorem eq_of_settles_nil (h : Settles name [] before after) : before = after := by
  cases h with
  | read h => cases h
  | kept => rfl

inductive SettlesFirst (name : String) (m : MemberText) (members : List MemberText) :
    Option (Option String) → Option (Option String) → Prop
  | this {value : Option String} (hname : StandsFor m.1 name) (hvalue : Gives m.2 value)
    (h : Settles name members (some value) (some value)) :
    SettlesFirst name m members none (some value)
  | other {before after : Option (Option String)} (hname : ¬StandsFor m.1 name)
    (h : Settles name members before after) : SettlesFirst name m members before after

/-- What is read of a name is settled by the first member or by those after it. -/
theorem settlesFirst_of_settles (h : Settles name (m :: members) before after) :
    SettlesFirst name m members before after := by
  cases h with
  | read h =>
    cases h with
    | this hname hvalue h => exact .this hname hvalue (.kept h)
    | other hname h => exact .other hname (.read h)
  | kept h =>
    cases h with
    | other hname h => exact .other hname (.kept h)

end Settles

structure Completes (members : List MemberText) (draft final : Draft) : Prop where
  name : Settles "name" members draft.name final.name
  description : Settles "description" members draft.description final.description

theorem eq_of_completes_nil {draft final : Draft} (h : Completes [] draft final) :
    draft = final := by
  cases draft
  cases final
  rw [Draft.mk.injEq]
  exact ⟨eq_of_settles_nil h.name, eq_of_settles_nil h.description⟩

/-! ## Steps of a reader -/

section Steps

variable {state next : Stage × Draft} {draft : Draft} {token : Token} {rest : List Token}

theorem foldlM_cons (h : step state token = .ok next) :
    (token :: rest).foldlM step state = rest.foldlM step next := by
  rw [List.foldlM_cons, h]
  rfl

-- The induction is on the pieces that are passed over.
theorem foldlM_passing {skip : Json.Skip} {left : Option Json.Skip} {ts : List Token}
    (h : PassesOver skip ts left rest) :
    ts.foldlM step (.passing skip, draft) =
      rest.foldlM step (left.elim .commaOrEnd .passing, draft) := by
  induction h with
  | token h =>
    refine foldlM_cons ?_
    rw [step, h]
    rfl
  | trans _ _ ih ih' => exact ih.trans ih'

end Steps

/-! ## Reading members -/

def Stage.TakesName (stage : Stage) : Prop := stage = .memberOrEnd ∨ stage = .member

section Members

variable {stage : Stage} {draft : Draft} {m : MemberText} {members : List MemberText}
  {s rest : List Char} {name : String}

/-- Where a name is expected, only what the name is decides what comes next. -/
theorem step_name (hstage : stage.TakesName) {next : Stage}
    (h : readName draft (.string (some name)) = .ok next) :
    step (stage, draft) (.string (some name)) = .ok (next, draft) := by
  rcases hstage with rfl | rfl <;> simp [step, h, Except.map]

/-- A member up to its value, as tokens. -/
theorem tokens_of_member (h : Written (.member m) s) (hname : StandsFor m.1 name)
    (hrest : Stops rest) :
    ∃ after, tokens after = tokens rest ∧ Stops after ∧ Written .value m.2 ∧
      tokens (s ++ rest) = .string (some name) :: .colon :: tokens (m.2 ++ after) := by
  cases h with
  | @member _ _ _ _ s d _ ha hkey hb hc h hd =>
    obtain ⟨content, hcontent, htokens⟩ := Json.tokens_name ha hkey hb hc (s ++ (d ++ rest))
    refine ⟨d ++ rest, Json.tokens_blanks hd rest, Json.stops_of_blanks hd hrest, h, ?_⟩
    simp only [List.append_assoc, List.cons_append]
    rw [htokens, hcontent name hname]

/-- A member with another name is passed over with its value, whatever that is. -/
theorem foldlM_further_member (hstage : stage.TakesName) (h : Written (.member m) s)
    (hname : StandsFor m.1 name) (hfurther : Member.ofName? name = none) (hrest : Stops rest) :
    (tokens (s ++ rest)).foldlM step (stage, draft) =
      (tokens rest).foldlM step (.commaOrEnd, draft) := by
  obtain ⟨after, hafter, hstops, hvalue, htokens⟩ := tokens_of_member h hname hrest
  have hread : readName draft (.string (some name)) = .ok (.colon none) := by
    rw [readName, hfurther]
  rw [htokens, foldlM_cons (step_name hstage hread), foldlM_cons rfl,
    foldlM_passing (Json.passesOver_of_value hvalue hstops), hafter]
  rfl

theorem foldlM_gives {value : Option String} {member : Member} (h : Gives s value)
    (rest : List Char) :
    (tokens (s ++ rest)).foldlM step (.value member, draft) =
      (tokens rest).foldlM step (.commaOrEnd, draft.put member value) := by
  cases h with
  | null =>
    have hnull : (['n', 'u', 'l', 'l'], Token.null) ∈ Json.words := by decide
    rw [Json.tokens_word hnull]
    exact foldlM_cons rfl
  | text h =>
    rw [List.cons_append, List.append_assoc, List.singleton_append, Json.tokens_of_standsFor h]
    exact foldlM_cons rfl

/-- A known name that comes for the first time takes its value. -/
theorem foldlM_member {value : Option String} {member : Member} (hstage : stage.TakesName)
    (h : Written (.member m) s) (hname : StandsFor m.1 name)
    (hmember : Member.ofName? name = some member) (hfirst : draft.has member = false)
    (hvalue : Gives m.2 value) (hrest : Stops rest) :
    (tokens (s ++ rest)).foldlM step (stage, draft) =
      (tokens rest).foldlM step (.commaOrEnd, draft.put member value) := by
  obtain ⟨after, hafter, -, -, htokens⟩ := tokens_of_member h hname hrest
  have hread : readName draft (.string (some name)) = .ok (.colon (some member)) := by
    rw [readName, hmember]
    simp only [hfirst]
    rfl
  rw [htokens, foldlM_cons (step_name hstage hread), foldlM_cons rfl, foldlM_gives hvalue, hafter]

/-- Reading one member leaves a draft that the other members complete. -/
theorem foldlM_first {final : Draft} (hstage : stage.TakesName) (h : Written (.member m) s)
    (hname : StandsFor m.1 name) (hcompletes : Completes (m :: members) draft final) :
    ∃ next, Completes members next final ∧ ∀ rest, Stops rest →
      (tokens (s ++ rest)).foldlM step (stage, draft) =
        (tokens rest).foldlM step (.commaOrEnd, next) := by
  obtain ⟨draftName, draftDescription⟩ := draft
  obtain ⟨finalName, finalDescription⟩ := final
  -- The member is the name, the description or a further one; what it is not stays as it is.
  cases settlesFirst_of_settles hcompletes.name with
  | this hthis hvalue hleft =>
    obtain rfl := Json.eq_of_standsFor hname hthis
    refine ⟨{ name := some _, description := draftDescription }, ⟨hleft, ?_⟩, fun rest =>
      foldlM_member hstage h hname rfl rfl hvalue⟩
    cases settlesFirst_of_settles hcompletes.description with
    | this hthis => exact absurd (Json.eq_of_standsFor hname hthis) (by decide)
    | other _ hleft => exact hleft
  | other hother hleft =>
    cases settlesFirst_of_settles hcompletes.description with
    | this hthis hvalue hleft' =>
      obtain rfl := Json.eq_of_standsFor hname hthis
      refine ⟨{ name := draftName, description := some _ }, ⟨hleft, hleft'⟩, fun rest => ?_⟩
      exact foldlM_member hstage h hname rfl rfl hvalue
    | other hother' hleft' =>
      have hfurther : Member.ofName? name = none := by
        rw [Member.ofName?, if_neg, if_neg]
        · rintro rfl
          exact hother' hname
        · rintro rfl
          exact hother hname
      exact ⟨_, ⟨hleft, hleft'⟩, fun rest => foldlM_further_member hstage h hname hfurther⟩

-- The induction is on the members, from any draft; each completes a part of it.
theorem foldlM_members {final : Draft} (hstage : stage.TakesName)
    (h : Written (.members members) s) (hnames : ∀ m ∈ members, ∃ name, StandsFor m.1 name)
    (hcompletes : Completes members draft final) (rest : List Char) :
    (tokens (s ++ '\x7d' :: rest)).foldlM step (stage, draft) =
      (tokens rest).foldlM step (.done, final) := by
  induction members generalizing s stage draft with
  | nil => cases h
  | cons m members ih =>
    obtain ⟨⟨name, hname⟩, hnames⟩ := List.forall_mem_cons.mp hnames
    cases h with
    | lastMember h =>
      obtain ⟨next, hnext, hrun⟩ := foldlM_first hstage h hname hcompletes
      rw [hrun _ (Json.stops_cons (.inr (.inr rfl))), Json.tokens_mark (by decide) rfl,
        foldlM_cons rfl, eq_of_completes_nil hnext]
    | moreMembers h ht =>
      obtain ⟨next, hnext, hrun⟩ := foldlM_first hstage h hname hcompletes
      rw [List.append_assoc, List.cons_append, hrun _ (Json.stops_cons (.inl rfl)),
        Json.tokens_mark (by decide) rfl, foldlM_cons rfl, ih (.inr rfl) ht hnames hnext]

end Members

/-! ## Reading objects -/

section Objects

variable {text : List Char} {members : List MemberText}
  {name description : Option (Option String)}

theorem foldlM_objectText {final : Draft} (h : ObjectText text members)
    (hnames : ∀ m ∈ members, ∃ name, StandsFor m.1 name) (hcompletes : Completes members {} final) :
    (tokens text).foldlM step (.start, {}) = .ok (.done, final) := by
  have hend {b : List Char} (hb : Json.Blanks b) : tokens b = [] := by
    rw [← List.append_nil b, Json.tokens_blanks hb, tokens]
  cases h with
  | empty ha h hb =>
    rw [Json.tokens_blanks ha, Json.tokens_mark (by decide) rfl, foldlM_cons rfl,
      Json.tokens_blanks h, Json.tokens_mark (by decide) rfl, foldlM_cons rfl, hend hb,
      eq_of_completes_nil hcompletes]
    rfl
  | members ha h hb =>
    rw [Json.tokens_blanks ha, Json.tokens_mark (by decide) rfl, foldlM_cons rfl,
      foldlM_members (.inl rfl) h hnames hcompletes, hend hb]
    rfl

/-- An object is read whose members may stand in any order, between others of any kind. -/
theorem read_objectText (h : ObjectText text members)
    (hnames : ∀ m ∈ members, ∃ name, StandsFor m.1 name) (hname : Holds "name" members name)
    (hdescription : Holds "description" members description) :
    read text = .ok { name := name.join, description } := by
  have hcompletes : Completes members {} { name, description } :=
    ⟨settles_of_holds hname, settles_of_holds hdescription⟩
  rw [read, foldlM_objectText h hnames hcompletes]

/-- A patch is read from every object whose members have texts for names, wherever the members that
count stand, however they are written, and whatever else there is.  It updates the name exactly
where a text is given, and the description exactly where its member is there, to NULL where its
value is null. -/
theorem update_of_objectText (h : ObjectText text members)
    (hnames : ∀ m ∈ members, ∃ name, StandsFor m.1 name) (hname : Holds "name" members name)
    (hdescription : Holds "description" members description) :
    ∃ patch, read text = .ok patch ∧
      (∀ id : Int64,
        let assigned := (name.join.map fun text => ("name", some text)).toList ++
          (description.map fun text => ("description", text)).toList
        (patch.updates.statement? "id" id).map Sql.Update.compile =
          if assigned = [] then none
          else some {
            sql := Sql.updateText "payment_terms" (assigned.map Prod.fst) "id"
            values := assigned.map (fun (_, text) => .string text) ++ [.bigInt (some id)] }) ∧
      ∀ other others, ObjectText other others → (∀ m ∈ others, ∃ name, StandsFor m.1 name) →
        Holds "name" others name → Holds "description" others description →
          read other = read text := by
  have hread := read_objectText h hnames hname hdescription
  refine ⟨_, hread, fun id => ?_, fun other others h' hnames' hname' hdescription' => ?_⟩
  · exact compile_statement? _ id
  · rw [hread, read_objectText h' hnames' hname' hdescription']

end Objects

-- Half a surrogate pair is an escape like any other.
theorem quoted_halfPair : Json.Quoted "\\ud800".toList [0xD800] :=
  .cons (.code (i := 13) (j := 8) (k := 0) (l := 0) ⟨by decide, .inl rfl⟩ ⟨by decide, .inl rfl⟩
    ⟨by decide, .inl rfl⟩ ⟨by decide, .inl rfl⟩) .nil

/-- Escapes and blanks, a member that nobody asked for, and the order make no difference. -/
theorem update_of_escaped_object :
    let text :=
      " \x7b\"x\":[\"\\ud800\"],\"description\" :null, \"n\\u0061me\":\"a\\nb\"\x7d".toList
    let members := [("x".toList, "[\"\\ud800\"]".toList), ("description".toList, "null".toList),
      ("n\\u0061me".toList, "\"a\\nb\"".toList)]
    ObjectText text members ∧ (∀ m ∈ members, ∃ name, StandsFor m.1 name) ∧
      Holds "name" members (some (some "a\nb")) ∧ Holds "description" members (some none) ∧
      ∃ patch, read text = .ok patch ∧
        (patch.updates.statement? "id" 7).map Sql.Update.compile = some {
          sql := "UPDATE \"payment_terms\" SET \"name\" = $1, \"description\" = $2 " ++
            "WHERE \"id\" = $3"
          values := [.string (some "a\nb"), .string none, .bigInt (some 7)] } := by
  intro text members
  have hx : StandsFor "x".toList "x" := Json.standsFor_of_plain _ (by decide)
  have hcleared : StandsFor "description".toList "description" :=
    Json.standsFor_of_plain _ (by decide)
  have hescape : StandsFor "\\u0061".toList "a" :=
    Json.standsFor_of_letter (.code (i := 0) (j := 0) (k := 6) (l := 1) ⟨by decide, .inl rfl⟩
      ⟨by decide, .inl rfl⟩ ⟨by decide, .inl rfl⟩ ⟨by decide, .inl rfl⟩)
  have hrenamed : StandsFor "n\\u0061me".toList "name" :=
    ((Json.standsFor_of_plain "n" (by decide)).append hescape).append
      (Json.standsFor_of_plain "me" (by decide))
  have hline : StandsFor "a\\nb".toList "a\nb" :=
    ((Json.standsFor_of_plain "a" (by decide)).append
      (Json.standsFor_of_letter (c := '\n') (.short (e := 'n') (by decide)))).append
      (Json.standsFor_of_plain "b" (by decide))
  have hnull : ("null".toList, Token.null) ∈ Json.words := by decide
  have hnone : Json.Blanks [] := List.forall_mem_nil _
  have hone : Json.Blanks [' '] := List.forall_mem_singleton.mpr (.inl rfl)
  have hmembers : Written (.members members)
      "\"x\":[\"\\ud800\"],\"description\" :null, \"n\\u0061me\":\"a\\nb\"".toList :=
    .moreMembers (s := "\"x\":[\"\\ud800\"]".toList)
      (.member hnone hx hnone hnone
        (.array (.lastItem (.item hnone (.string quoted_halfPair) hnone))) hnone) <|
    .moreMembers (s := "\"description\" :null".toList)
      (.member hnone hcleared hone hnone (.word hnull) hnone) <|
    .lastMember (.member hone hrenamed hnone hnone (.string hline) hnone)
  have htext : ObjectText text members := .members hone hmembers hnone
  have hnames : ∀ m ∈ members, ∃ name, StandsFor m.1 name := by
    simp only [members, List.forall_mem_cons, List.not_mem_nil, false_imp_iff, implies_true]
    exact ⟨⟨_, hx⟩, ⟨_, hcleared⟩, ⟨_, hrenamed⟩, trivial⟩
  have hother {s : List Char} {name other : String} (h : StandsFor s name) (hne : name ≠ other) :
      ¬StandsFor s other := fun h' => hne (Json.eq_of_standsFor h h')
  have hname : Holds "name" members (some (some "a\nb")) :=
    .other (hother hx (by decide)) <| .other (hother hcleared (by decide)) <|
      .this hrenamed (.text hline) .nil
  have hdescription : Holds "description" members (some none) :=
    .other (hother hx (by decide)) <| .this hcleared .null <|
      .other (hother hrenamed (by decide)) .nil
  obtain ⟨patch, hread, hupdate, -⟩ := update_of_objectText htext hnames hname hdescription
  refine ⟨htext, hnames, hname, hdescription, patch, hread, ?_⟩
  rw [hupdate 7]
  decide +kernel

/-- A name with half a surrogate pair keeps the rules of JSON, but it is no text, and the object is
not read. -/
theorem not_read_half_pair_as_name :
    let text := "\x7b\"\\ud800\":0\x7d".toList
    let members := [("\\ud800".toList, "0".toList)]
    ObjectText text members ∧ Holds "name" members none ∧ Holds "description" members none ∧
      read text = .error .malformed := by
  intro text members
  have hhalf (name : String) : ¬StandsFor "\\ud800".toList name := by
    intro h
    have htoken : Json.stringToken ("\\ud800".toList ++ ['"']) = (.string none, []) := by
      decide +kernel
    rw [Json.stringToken_of_standsFor h] at htoken
    cases htoken
  have hnone : Json.Blanks [] := List.forall_mem_nil _
  have hzero : Written .value "0".toList :=
    .number (@Json.IsNumber.intro [] ['0'] [] [] (.inl rfl) .zero .none .none)
  have hmembers : Written (.members members) "\"\\ud800\":0".toList :=
    .lastMember (.member hnone quoted_halfPair hnone hnone hzero hnone)
  exact ⟨.members hnone hmembers hnone, .other (hhalf "name") .nil,
    .other (hhalf "description") .nil, by decide +kernel⟩

end Daybook.Document.TermPatch
