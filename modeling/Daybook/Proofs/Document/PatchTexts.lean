import Daybook.Listing.Field
import Daybook.Proofs.Json.StringTokens
import Daybook.Proofs.Service.Patch

/-!
# Texts of a patch

Every text that a patch sends comes of a string in its body.  No text is looked at, so that NUL goes
out as well, but it takes the escape of NUL in the body to get it in.
-/

namespace Daybook.Document.TermPatch

open Json (StandsFor Token nulEscape tokens)

/-! ## Texts of a draft -/

namespace Draft

def texts (draft : Draft) : List String :=
  draft.name.join.toList ++ draft.description.join.toList

theorem mem_texts_put {draft : Draft} {member : Member} {value : Option String} {text : String}
    (h : text ∈ (draft.put member value).texts) : text ∈ draft.texts ∨ value = some text := by
  cases member with
  | name =>
    rcases List.mem_append.mp h with hname | hdescription
    · exact .inr (Option.mem_toList.mp hname)
    · exact .inl (List.mem_append_right _ hdescription)
  | description =>
    rcases List.mem_append.mp h with hname | hdescription
    · exact .inl (List.mem_append_left _ hname)
    · exact .inr (Option.mem_toList.mp hdescription)

end Draft

/-! ## Steps of a reader -/

/-- A text that is taken over comes from a string token. -/
theorem eq_string_of_readValue {token : Token} {text : String}
    (h : readValue token = .ok (some text)) : token = .string (some text) := by
  unfold readValue at h
  split at h <;> cases h
  rfl

/-- A step leaves the draft alone, or it puts the value of its token in. -/
theorem draft_of_step {state next : Stage × Draft} {token : Token}
    (h : step state token = .ok next) :
    next.2 = state.2 ∨
      ∃ member value, readValue token = .ok value ∧ next.2 = state.2.put member value := by
  obtain ⟨stage, draft⟩ := state
  simp only [step] at h
  split at h
  -- The first item, the second item and the value of a member are put into the draft.
  case h_5 =>
    obtain ⟨value, hvalue, rfl⟩ := Json.exists_of_map_eq_ok h
    exact .inr ⟨.name, value, hvalue, rfl⟩
  case h_7 =>
    obtain ⟨value, hvalue, rfl⟩ := Json.exists_of_map_eq_ok h
    exact .inr ⟨.description, value, hvalue, rfl⟩
  case h_16 member =>
    obtain ⟨value, hvalue, rfl⟩ := Json.exists_of_map_eq_ok h
    exact .inr ⟨member, value, hvalue, rfl⟩
  case h_12 | h_13 | h_17 =>
    obtain ⟨_, -, rfl⟩ := Json.exists_of_map_eq_ok h
    exact .inl rfl
  all_goals cases h
  all_goals exact .inl rfl

-- The induction is on the tokens.
theorem mem_texts_of_foldlM {state final : Stage × Draft} {ts : List Token} {text : String}
    (h : ts.foldlM step state = .ok final) (htext : text ∈ final.2.texts) :
    text ∈ state.2.texts ∨ .string (some text) ∈ ts := by
  induction ts generalizing state with
  | nil =>
    cases h
    exact .inl htext
  | cons token ts ih =>
    rw [List.foldlM_cons] at h
    obtain ⟨next, hstep, h⟩ := bind_eq_ok_iff.mp h
    rcases ih h with hnext | hlater
    · rcases draft_of_step hstep with hdraft | ⟨member, value, hvalue, hdraft⟩ <;>
        rw [hdraft] at hnext
      · exact .inl hnext
      · rcases Draft.mem_texts_put hnext with hbefore | rfl
        · exact .inl hbefore
        · exact .inr (eq_string_of_readValue hvalue ▸ List.mem_cons_self)
    · exact .inr (List.mem_cons_of_mem _ hlater)

/-! ## From the body to the update -/

def texts (patch : TermPatch) : List String :=
  patch.name.toList ++ patch.description.join.toList

/-- Every text of a patch is written somewhere in the body between two quotes. -/
theorem exists_standsFor_of_read {body : List Char} {patch : TermPatch} {text : String}
    (h : read body = .ok patch) (htext : text ∈ patch.texts) :
    ∃ q, '"' :: (q ++ ['"']) <:+: body ∧ StandsFor q text := by
  refine Json.exists_standsFor_of_mem_tokens ?_
  unfold read at h
  split at h
  · cases h
  · rename_i draft hrun
    cases h
    have hstart : text ∉ (Stage.start, ({} : Draft)).2.texts := List.not_mem_nil
    exact (mem_texts_of_foldlM hrun htext).resolve_left hstart
  · cases h

theorem mem_texts_iff {patch : TermPatch} {text : String} :
    text ∈ patch.texts ↔ some text ∈ patch.given.map Prod.snd := by
  obtain ⟨_ | name, _ | _ | description⟩ := patch <;> simp [texts, given]

/-- The values that a patch binds are what it gives, and then the id. -/
theorem values_of_mem_statement? {patch : TermPatch} {id : Int64} {update : Sql.Update}
    (h : update ∈ patch.updates.statement? "id" id) :
    update.compile.values =
      (patch.given.map Prod.snd).map .string ++ [.bigInt (some id)] := by
  have hcompile := patch.compile_statement? id
  rw [Option.mem_def.mp h, Option.map_some] at hcompile
  split at hcompile
  · cases hcompile
  · rw [Option.some.inj hcompile, List.map_map]
    rfl

theorem mem_values_iff {patch : TermPatch} {id : Int64} {update : Sql.Update} {text : String}
    (h : update ∈ patch.updates.statement? "id" id) :
    .string (some text) ∈ update.compile.values ↔ text ∈ patch.texts := by
  rw [values_of_mem_statement? h, mem_texts_iff]
  simp

/-- A patch sends its texts as they are.  One with NUL comes of a string in the body that has the
escape of NUL, so all values can be bound if the body has no such escape. -/
theorem nul_of_read {body : List Char} {patch : TermPatch} (h : read body = .ok patch)
    (id : Int64) :
    ∀ update ∈ patch.updates.statement? "id" id,
      (∀ text, .string (some text) ∈ update.compile.values ↔
        patch.name = some text ∨ patch.description = some (some text)) ∧
      (∀ text, .string (some text) ∈ update.compile.values → '\x00' ∈ text.toList →
        ∃ q, '"' :: (q ++ ['"']) <:+: body ∧ StandsFor q text ∧ nulEscape <:+: q) ∧
      (¬nulEscape <:+: body → ∀ value ∈ update.compile.values, value.Bindable) := by
  intro update hupdate
  have hescape {text : String} (htext : text ∈ patch.texts) (hnul : '\x00' ∈ text.toList) :
      ∃ q, '"' :: (q ++ ['"']) <:+: body ∧ StandsFor q text ∧ nulEscape <:+: q := by
    obtain ⟨q, hbody, hstands⟩ := exists_standsFor_of_read h htext
    exact ⟨q, hbody, hstands, Json.nulEscape_infix_of_standsFor hstands hnul⟩
  refine ⟨fun text => ?_, fun text hmem => hescape ((mem_values_iff hupdate).mp hmem),
    fun hbody value hvalue => ?_⟩
  · rw [mem_values_iff hupdate, texts, List.mem_append, Option.mem_toList, Option.mem_toList,
      Option.join_eq_some_iff]
  · rw [values_of_mem_statement? hupdate] at hvalue
    rcases List.mem_append.mp hvalue with hgiven | hid
    · obtain ⟨given, hmem, rfl⟩ := List.mem_map.mp hgiven
      rintro text rfl hnul
      obtain ⟨q, hq, -, hescaped⟩ := hescape (mem_texts_iff.mpr hmem) hnul
      have hquoted : q <:+: '"' :: (q ++ ['"']) := ⟨['"'], ['"'], rfl⟩
      exact hbody (hescaped.trans (hquoted.trans hq))
    · rw [List.mem_singleton.mp hid]
      trivial

/-- Other control characters are fine, and so is the escape of a backslash. -/
theorem nul_of_read_without_escape :
    let body := "\x7b\"name\":\"Net\\u0001\",\"description\":\"\\\\u00e9\"\x7d".toList
    let patch : TermPatch := { name := some "Net\x01", description := some (some "\\u00e9") }
    read body = .ok patch ∧ ¬nulEscape <:+: body ∧
      ∃ update ∈ patch.updates.statement? "id" 7,
        update.compile.values =
          [.string (some "Net\x01"), .string (some "\\u00e9"), .bigInt (some 7)] ∧
        ∀ value ∈ update.compile.values, value.Bindable := by
  intro body patch
  have hread : read body = .ok patch := by decide +kernel
  have hescape : ¬nulEscape <:+: body := by decide +kernel
  obtain ⟨-, -, hbindable⟩ := nul_of_read hread 7 _ rfl
  exact ⟨hread, hescape, _, rfl, by decide +kernel, hbindable hescape⟩

/-- With the escape of NUL a patch is accepted and sends NUL, though no filter takes such a text. -/
theorem accepted_with_nul :
    let body := "\x7b\"description\":\"a\\u0000b\"\x7d".toList
    ∃ patch, read body = .ok patch ∧ patch.complaint? = none ∧
      (∃ update ∈ patch.updates.statement? "id" 7,
        update.compile.values = [.string (some "a\x00b"), .bigInt (some 7)]) ∧
      '\x00' ∈ "a\x00b".toList ∧ Listing.FieldKind.text.read? "a\x00b".toList = none := by
  intro body
  refine ⟨{ description := some (some "a\x00b") }, by decide +kernel, by decide +kernel,
    ⟨_, rfl, by decide +kernel⟩, by decide +kernel, by decide +kernel⟩

end Daybook.Document.TermPatch
