import Daybook.Proofs.Service.LookUp
import Daybook.Proofs.Sql.UpdateSet

/-!
# Patches

A patch is refused before anything is sent, or it is an update followed by a look-up.  The update is
left out where nothing is given, and the look-up where the update came to nothing.
-/

namespace Daybook

/-! ## What a patch gives -/

namespace Document.TermPatch

/-- The columns that a patch gives something to, each with what it is given; nothing is NULL. -/
def given (patch : TermPatch) : List (String × Option String) :=
  (patch.name.map fun name => ("name", some name)).toList ++
    (patch.description.map fun text => ("description", text)).toList

def Blank (patch : TermPatch) : Prop :=
  ∃ name, patch.name = some name ∧ Text.trim name.toList = []

theorem updates_eq (patch : TermPatch) :
    patch.updates = {
      table := "payment_terms"
      assignments := patch.given.map fun (column, text) => (column, .string text) } := by
  obtain ⟨_ | name, _ | description⟩ := patch <;> rfl

/-- The statement for a patch: each column that is given something, in order, and then the id. -/
theorem compile_statement? (patch : TermPatch) (id : Int64) :
    (patch.updates.statement? "id" id).map Sql.Update.compile =
      if patch.given = [] then none
      else some {
        sql := Sql.updateText "payment_terms" (patch.given.map Prod.fst) "id"
        values := patch.given.map (fun (_, text) => .string text) ++ [.bigInt (some id)] } := by
  by_cases hgiven : patch.given = []
  · rw [updates_eq, if_pos hgiven, hgiven]
    rfl
  · rw [updates_eq, if_neg hgiven, Sql.UpdateSet.statement?, Sql.UpdateSet.isEmpty,
      if_neg (by simp [hgiven]), Option.map_some, Sql.Update.compile_eq, List.map_map, List.map_map]
    rfl

theorem complaint?_of_blank {patch : TermPatch} (h : patch.Blank) :
    patch.complaint? = some "name must not be empty" := by
  obtain ⟨name, hname, hblank⟩ := h
  rw [complaint?, hname, Option.any_some, hblank]
  rfl

/-- Nothing else is complained about, not even a missing name. -/
theorem complaint?_of_not_blank {patch : TermPatch} (h : ¬patch.Blank) :
    patch.complaint? = none := by
  rw [complaint?, if_neg]
  intro hany
  cases hname : patch.name with
  | none => rw [hname] at hany; cases hany
  | some name =>
    rw [hname] at hany
    exact h ⟨name, hname, List.isEmpty_iff.mp hany⟩

end Document.TermPatch

namespace Service

open Document (PaymentTerm TermPatch)
open Http (Reply Request)
open Resource (Kind)

structure Carries (request : Request) (patch : TermPatch) : Prop where
  sendsJson : sendsJson request
  read_body : TermPatch.read request.body = .ok patch

theorem readPatch_of_carries {request : Request} {patch : TermPatch} (h : Carries request patch) :
    readPatch request = .ok patch := by
  rw [readPatch, if_pos h.sendsJson, h.read_body]
  rfl

/-- A request that carries no patch is refused with a reason. -/
theorem readPatch_of_forall_not_carries {request : Request}
    (h : ∀ patch, ¬Carries request patch) :
    ∃ reason, readPatch request = .error (.badRequest reason) := by
  unfold readPatch
  by_cases hjson : sendsJson request
  · rw [if_pos hjson]
    cases hread : TermPatch.read request.body with
    | error fault => exact ⟨_, rfl⟩
    | ok patch => exact absurd ⟨hjson, hread⟩ (h patch)
  · rw [if_neg hjson]
    exact ⟨_, rfl⟩

/-! ## Updates -/

def updateOf (n : Int64) (patch : TermPatch) : Sql.Update where
  table := "payment_terms"
  assignments := patch.given.map fun (column, text) => (column, .string text)
  keyColumn := "id"
  key := n

/-- The call for the update of a payment term: each column that is given something, in order, and
then the id. -/
def updateCall (n : Int64) (patch : TermPatch) : Sql.Call where
  sql := Sql.updateText "payment_terms" (patch.given.map Prod.fst) "id"
  arguments := patch.given.map (fun (_, text) => text.elim .null .text) ++ [.integer n.toInt]

theorem call_updateOf (n : Int64) (patch : TermPatch) :
    (updateOf n patch).compile.call = .ok (updateCall n patch) := by
  rw [Sql.Compiled.call, Sql.Update.values_compile, Sql.Update.sql_compile, updateOf, updateCall]
  obtain ⟨_ | name, _ | description⟩ := patch <;> rfl

def changedOrMissing (rows : Nat) : Run Unit :=
  if rows = 0 then .fail (.notFound "payment term") else pure ()

/-- A patch that gives nothing sends nothing. -/
theorem assign_of_nothing {patch : TermPatch} (h : patch.given = []) (database : Database)
    (n : Int64) : database.assign n patch.updates = pure () := by
  rw [Database.assign, patch.updates_eq, h]
  rfl

/-- A patch that gives something sends one update. -/
theorem assign_of_given {patch : TermPatch} (h : patch.given ≠ []) (database : Database)
    (n : Int64) :
    database.assign n patch.updates =
      { sent := [updateCall n patch]
        outcome := (database.update (updateCall n patch)).mapCause .database } >>=
          changedOrMissing := by
  have hsome : patch.updates.statement? "id" n = some (updateOf n patch) := by
    rw [Sql.UpdateSet.statement?, patch.updates_eq, Sql.UpdateSet.isEmpty, if_neg]
    · rfl
    · rw [List.isEmpty_iff, List.map_eq_nil_iff]
      exact h
  rw [Database.assign, hsome]
  show Database.send _ _ >>= _ = _
  rw [send_of_call (call_updateOf n patch)]
  rfl

/-- With a good id and a good body, the patch is tried. -/
theorem revise_of_carries {service : Service} {request : Request} {id : List Char} {n : Int64}
    {patch : TermPatch} (hid : Names id n) (hcarries : Carries request patch) :
    service.revise request id =
      documentReply PaymentTerm.json <$> service.database.revise n patch := by
  rw [revise, readId_of_names hid, readPatch_of_carries hcarries, Run.ofExcept, Run.pure_bind,
    Run.ofExcept, Run.pure_bind]

/-- The term is looked up after it was changed. -/
theorem revise_of_not_blank {patch : TermPatch} (h : ¬patch.Blank) (database : Database)
    (n : Int64) :
    database.revise n patch =
      database.assign n patch.updates >>= fun _ => database.lookUp Resource.paymentTerms n := by
  rw [Database.revise, patch.complaint?_of_not_blank h]

/-! ## Refusals -/

/-- Without a good id or a good body nothing is sent. -/
theorem revise_of_refused {service : Service} {request : Request} {id : List Char}
    (h : (∀ n, ¬Names id n) ∨ (∀ patch, ¬Carries request patch) ∨
      ∃ patch, Carries request patch ∧ patch.Blank) :
    ∃ reason, service.revise request id = .fail (.badRequest reason) := by
  by_cases hid : ∃ n, Names id n
  · obtain ⟨n, hid⟩ := hid
    by_cases hbody : ∃ patch, Carries request patch
    · obtain ⟨patch, hcarries, hblank⟩ := (h.resolve_left fun hnone => hnone n hid).resolve_left
        fun hnone => hbody.elim hnone
      refine ⟨"name must not be empty", ?_⟩
      rw [revise_of_carries hid hcarries, Database.revise, patch.complaint?_of_blank hblank]
      rfl
    · obtain ⟨reason, hread⟩ := readPatch_of_forall_not_carries fun patch hcarries =>
        hbody ⟨patch, hcarries⟩
      refine ⟨reason, ?_⟩
      rw [revise, readId_of_names hid, hread, Run.ofExcept, Run.pure_bind]
      rfl
  · obtain ⟨reason, hread⟩ := readId_of_forall_not_names fun n hn => hid ⟨n, hn⟩
    refine ⟨reason, ?_⟩
    rw [revise, hread]
    rfl

/-! ## Answers -/

theorem answer_patch {service : Service} {request : Request} {id : List Char}
    (hpatch : request.method = .patch)
    (hpath : Endpoint.ofPath? request.target.path = some (.document .paymentTerm id)) :
    service.answer request = .ofRun (service.revise request id) := by
  have hrun : service.run request = service.revise request id := by
    rw [run, hpath, hpatch]
  rw [answer, hrun, hpatch, if_neg (by decide)]
  rfl

theorem answer_lookUp {service : Service} {request : Request} {kind : Kind} {id : List Char}
    {n : Int64} (hget : request.method = .get)
    (hpath : Endpoint.ofPath? request.target.path = some (.document kind id)) (hid : Names id n) :
    service.answer request =
      .ofRun (documentReply kind.resource.json <$> service.database.lookUp kind.resource n) := by
  rw [answer_get hget hpath, read, readId_of_names hid, Run.ofExcept, Run.pure_bind]

-- A call that was sent before does not show in the reply.
theorem Answer.ofRun_map_sent {α : Type} (earlier : List Sql.Call) (run : Run α) (f : α → Reply) :
    Answer.ofRun (f <$> { run with sent := earlier ++ run.sent }) =
      { Answer.ofRun (f <$> run) with sent := earlier ++ (Answer.ofRun (f <$> run)).sent } := by
  obtain ⟨sent, outcome⟩ := run
  cases outcome with
  | done a => rw [Run.map_done, Run.map_done]; rfl
  | failed failure => rfl
  | pending => rfl

/-- The reply does not change what was sent. -/
theorem Answer.sent_ofRun_map {α : Type} (run : Run α) (f : α → Reply) :
    (Answer.ofRun (f <$> run)).sent = run.sent := by
  obtain ⟨sent, outcome⟩ := run
  cases outcome with
  | done a => rw [Run.map_done]; rfl
  | failed failure => rfl
  | pending => rfl

def IsQuery (call : Sql.Call) : Prop := ∃ rest, call.sql = "SELECT " ++ rest

theorem isQuery_of_call {query : Sql.Select} {call : Sql.Call}
    (h : query.compile.call = .ok call) : IsQuery call := by
  obtain ⟨rest, hrest⟩ := query.exists_numbered_eq 1
  cases harguments : Sql.arguments query.compile.values with
  | error fault => rw [Sql.Compiled.call, harguments] at h; cases h
  | ok arguments =>
    rw [Sql.Compiled.call, harguments] at h
    cases h
    exact ⟨rest, hrest⟩

theorem sent_lookUp (kind : Kind) (database : Database) (n : Int64) :
    ∃ call, IsQuery call ∧ (database.lookUp kind.resource n).sent = [call] := by
  obtain ⟨query, hdetail, hsound⟩ := kind.sound_detail n
  obtain ⟨call, hcall⟩ := hsound.exists_call
  obtain ⟨fetched, hdocuments, _⟩ := fetch_documents hcall database kind.resource
  refine ⟨call, isQuery_of_call hcall, ?_⟩
  rw [lookUp_of_detail hdetail, hdocuments]
  cases fetched with
  | failed failure => rfl
  | pending => rfl
  | done documents => cases documents <;> rfl

/-! ## The answer to a patch -/

/-- The answer to a patch that gives something, by what its update came to: the look-up follows an
update of some rows, and nothing follows any other. -/
structure Revised (update : Sql.Call) (look : Answer) (changed : Outcome String Nat)
    (answer : Answer) : Prop where
  failed : ∀ cause, changed = .failed cause →
    answer = { sent := [update], reply := some (refusal 500 "internal server error") }
  missing : changed = .done 0 →
    answer = { sent := [update], reply := some (refusal 404 "payment term not found") }
  found : ∀ rows, changed = .done rows → rows ≠ 0 →
    answer = { look with sent := update :: look.sent }

theorem revised_of_given {α : Type} {patch : TermPatch} (hgiven : patch.given ≠ [])
    (database : Database) (n : Int64) (look : Run α) (f : α → Reply) :
    Revised (updateCall n patch) (.ofRun (f <$> look)) (database.update (updateCall n patch))
      (.ofRun (f <$> (database.assign n patch.updates >>= fun _ => look))) where
  failed cause h := by
    rw [assign_of_given hgiven, h]
    rfl
  missing h := by
    rw [assign_of_given hgiven, h]
    rfl
  found rows h hrows := by
    have hrun : ({ sent := [updateCall n patch], outcome := .done rows } : Run Nat) >>=
        changedOrMissing = { sent := [updateCall n patch], outcome := .done () } := by
      rw [Run.bind_done, changedOrMissing, if_neg hrows]
      rfl
    rw [assign_of_given hgiven, h, Outcome.mapCause, hrun, Run.bind_done, Answer.ofRun_map_sent]
    rfl

/-- A patch is refused with nothing sent if its id is no number, its body is no patch or its name is
blank.  Otherwise it is answered as a request for the payment term is, after one update of the
columns that it gives something to, if it gives anything; an update that fails or changes no row
ends the matter. -/
theorem answers_patch_as_look_up (service : Service) (request : Request) (id : List Char)
    (hpatch : request.method = .patch) (hne : id ≠ []) (hid : '/' ∉ id)
    (hpath : request.target.path = '/' :: Endpoint.segment .paymentTerm ++ '/' :: id) :
    ((∀ n, ¬Names id n) ∨ (∀ patch, ¬Carries request patch) ∨
        (∃ patch, Carries request patch ∧ patch.Blank) →
      ∃ message, service.answer request = { sent := [], reply := some (refusal 400 message) }) ∧
    ∀ n patch, Names id n → Carries request patch → ¬patch.Blank →
      ∀ get : Request, get.method = .get → get.target.path = request.target.path →
        (∃ query, IsQuery query ∧ (service.answer get).sent = [query]) ∧
        (patch.given = [] → service.answer request = service.answer get) ∧
        (patch.given ≠ [] → Revised (updateCall n patch) (service.answer get)
          (service.database.update (updateCall n patch)) (service.answer request)) := by
  have hendpoint : Endpoint.ofPath? request.target.path = some (.document .paymentTerm id) :=
    hpath ▸ Endpoint.ofPath?_document .paymentTerm hne hid
  have hanswer : service.answer request = .ofRun (service.revise request id) :=
    answer_patch hpatch hendpoint
  constructor
  · intro hrefused
    obtain ⟨reason, hrevise⟩ : ∃ reason, service.revise request id = .fail (.badRequest reason) :=
      revise_of_refused hrefused
    exact ⟨(Failure.badRequest reason).summary, by rw [hanswer, hrevise]; rfl⟩
  · intro n patch hn hcarries hblank get hget hsame
    rw [hanswer, revise_of_carries hn hcarries, revise_of_not_blank hblank,
      answer_lookUp hget (hsame ▸ hendpoint) hn]
    refine ⟨?_, fun hnothing => ?_, fun hgiven => ?_⟩
    · obtain ⟨query, hquery, hsent⟩ := sent_lookUp .paymentTerm service.database n
      exact ⟨query, hquery, by rw [Answer.sent_ofRun_map, hsent]⟩
    · rw [assign_of_nothing hnothing, Run.pure_bind]
      rfl
    · exact revised_of_given hgiven service.database n _ _

def oneTerm (changed : Nat) : Service where
  database := {
    Database.unreachable "" with
    rows := fun _ => .done [
      ⟨[("id", .integer 7), ("name", .text "Net"), ("created_at", .text "2024-01-01")]⟩]
    update := fun _ => .done changed }
  limits := {}

def requestForSeven : Request where
  target := ⟨"/payment-terms/7".toList, []⟩

def patchOfSeven (body : String) : Request where
  method := .patch
  target := requestForSeven.target
  contentType := some "application/json"
  body := body.toList

def renamingOfSeven : Request :=
  patchOfSeven "\x7b\"name\":\"Net 45\",\"description\":null\x7d"

/-- A term that is there is answered with after it was renamed, and one that is gone is not looked
up.  A patch that gives nothing is a look-up, and a blank name is refused. -/
theorem answers_of_patches_of_seven :
    Names ['7'] 7 ∧ Carries renamingOfSeven { name := some "Net 45", description := some none } ∧
    (∃ update query,
      update.sql =
        "UPDATE \"payment_terms\" SET \"name\" = $1, \"description\" = $2 WHERE \"id\" = $3" ∧
      update.arguments = [.text "Net 45", .null, .integer 7] ∧
      (oneTerm 1).answer renamingOfSeven =
        { sent := [update, query], reply := ((oneTerm 1).answer requestForSeven).reply } ∧
      (oneTerm 0).answer renamingOfSeven =
        { sent := [update], reply := some (refusal 404 "payment term not found") }) ∧
    (oneTerm 0).answer (patchOfSeven "\x7b\x7d") = (oneTerm 0).answer requestForSeven ∧
    ∃ message, (oneTerm 1).answer (patchOfSeven "\x7b\"name\":\" \"\x7d") =
      { sent := [], reply := some (refusal 400 message) } := by
  have hseven : Names ['7'] 7 :=
    ⟨['7'], by decide +kernel, .unsigned ⟨by decide, List.forall_mem_singleton.mpr rfl⟩⟩
  have hcarries :
      Carries renamingOfSeven { name := some "Net 45", description := some none } :=
    ⟨by decide +kernel, by decide +kernel⟩
  have hnothing : Carries (patchOfSeven "\x7b\x7d") {} := ⟨by decide +kernel, by decide +kernel⟩
  have hblank : Carries (patchOfSeven "\x7b\"name\":\" \"\x7d") { name := some " " } :=
    ⟨by decide +kernel, by decide +kernel⟩
  have hnamed : ¬TermPatch.Blank { name := some "Net 45", description := some none } := by
    rintro ⟨_, ⟨⟩, htrim⟩
    exact absurd htrim (by decide +kernel)
  have hnameless : ¬TermPatch.Blank {} := by
    rintro ⟨_, ⟨⟩, _⟩
  have hpatch (changed : Nat) (body : String) :=
    answers_patch_as_look_up (oneTerm changed) (patchOfSeven body) ['7'] rfl (by decide) (by decide)
      rfl
  obtain ⟨⟨query, -, hsent⟩, -, hchanged⟩ :=
    (hpatch 1 _).2 7 _ hseven hcarries hnamed requestForSeven rfl rfl
  obtain ⟨-, -, hgone⟩ := (hpatch 0 _).2 7 _ hseven hcarries hnamed requestForSeven rfl rfl
  obtain ⟨-, hsame, -⟩ := (hpatch 0 _).2 7 _ hseven hnothing hnameless requestForSeven rfl rfl
  refine ⟨hseven, hcarries, ⟨updateCall 7 { name := some "Net 45", description := some none },
    query, by decide +kernel, by decide +kernel, ?_, ?_⟩, hsame rfl, ?_⟩
  · have hfound := (hchanged (by decide)).found 1 rfl (by decide)
    rw [hsent] at hfound
    exact hfound
  · exact (hgone (by decide)).missing rfl
  · exact (hpatch 1 _).1 (.inr (.inr ⟨_, hblank, " ", rfl, by decide +kernel⟩))

end Service

end Daybook
