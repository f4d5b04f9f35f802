import Daybook.Proofs.Resource.Binding
import Daybook.Proofs.Service.Documents
import Daybook.Proofs.Service.Reply
import Daybook.Proofs.Text.Numeral

/-!
# Look-ups

A look-up is answered with the first document of its rows, or refused.  Rows that cannot be read
count even where they belong to other documents.
-/

namespace Daybook.Service

open Document (Record)
open Http (Reply Request)
open Resource (Kind)
open Text (Decimal Percent.decode Utf8.bytes Utf8.text?)

/-! ## Ids -/

/-- The text, as it stands in a path, is the whole number. -/
def Names (id : List Char) (n : Int64) : Prop :=
  ∃ text, Utf8.text? (Percent.decode (Utf8.bytes id)) = some text ∧ Decimal text n.toInt

theorem readId_of_names {id : List Char} {n : Int64} (h : Names id n) : readId id = .ok n := by
  obtain ⟨text, htext, hdecimal⟩ := h
  rw [readId, htext]
  show (Text.readInt64 text).mapError _ = _
  rw [Text.readInt64_eq_ok_iff.mpr hdecimal]
  rfl

/-- A text that names no number is refused with a reason. -/
theorem readId_of_forall_not_names {id : List Char} (h : ∀ n, ¬Names id n) :
    ∃ reason, readId id = .error (.badRequest reason) := by
  unfold readId
  split
  · exact ⟨_, rfl⟩
  · rename_i text htext
    cases hread : Text.readInt64 text with
    | error fault => exact ⟨_, rfl⟩
    | ok n => exact absurd ⟨text, htext, Text.readInt64_eq_ok_iff.mp hread⟩ (h n)

/-! ## Documents -/

structure DocumentReply (resource : Resource) (rows : Outcome String (List Record))
    (reply : Reply) : Prop where
  failed : RowsFail resource rows → reply = refusal 500 "internal server error"
  late : rows = .pending → reply = refusal 504 "query timed out"
  missing : rows = .done [] → reply = refusal 404 (resource.name ++ " not found")
  found : ∀ records, rows = .done records → records ≠ [] → ¬RowsFail resource rows →
    ∃ decoded document others, records.map resource.read = decoded.map .ok ∧
      resource.shape.Iterates decoded (document :: others) ∧
      reply = granted (resource.json document)

variable {resource : Resource} {rows : Outcome String (List Record)}
  {fetched : Outcome Failure (List resource.Out)}

def existing (resource : Resource) : Option resource.Out → Run resource.Out
  | some document => pure document
  | none => .fail (.notFound resource.name)

/-- A look-up takes the first document of its statement. -/
theorem lookUp_of_detail {id : Int64} {query : Sql.Select} (h : resource.detail id = .ok query)
    (database : Database) :
    database.lookUp resource id =
      List.head? <$> (database.documents resource query).underDeadline >>= existing resource := by
  rw [Database.lookUp, Database.find, h]
  rfl

namespace DocumentReply

theorem of_failed (h : RowsFail resource rows) :
    DocumentReply resource rows (refusal 500 "internal server error") where
  failed _ := rfl
  late hlate := absurd (hlate ▸ h) not_rowsFail_pending
  missing hrows := absurd (hrows ▸ h) not_rowsFail_nil
  found _ _ _ hread := absurd h hread

theorem of_pending : DocumentReply resource .pending (refusal 504 "query timed out") where
  failed h := absurd h not_rowsFail_pending
  late _ := rfl
  missing h := by cases h
  found records h := by cases h

theorem of_nil :
    DocumentReply resource (.done []) (refusal 404 (resource.name ++ " not found")) where
  failed h := absurd h not_rowsFail_nil
  late h := by cases h
  missing _ := rfl
  found := by
    rintro _ ⟨⟩ hne
    exact absurd rfl hne

/-- The first document is granted, and any others are left out. -/
theorem of_read {records : List Record} {decoded : List resource.Row} {document : resource.Out}
    {others : List resource.Out} (h : records.map resource.read = decoded.map .ok)
    (hgroup : resource.shape.group decoded = document :: others) :
    DocumentReply resource (.done records) (granted (resource.json document)) where
  failed hfailed := absurd hfailed (not_rowsFail_of_read h)
  late h := by cases h
  missing := by
    rintro ⟨⟩
    rw [List.map_nil, eq_comm, List.map_eq_nil_iff] at h
    rw [h] at hgroup
    cases hgroup
  found := by
    rintro _ ⟨⟩ _ _
    exact ⟨decoded, document, others, h, hgroup ▸ resource.shape.iterates_group decoded, rfl⟩

end DocumentReply

/-- Whatever is fetched, there is a reply to it. -/
theorem Fetch.documentReply (h : Fetch resource rows fetched) (sent : List Sql.Call) :
    ∃ reply, Answer.ofRun (Service.documentReply resource.json <$>
        (List.head? <$> ({ sent, outcome := fetched } : Run (List resource.Out)).underDeadline >>=
          existing resource)) = { sent, reply := some reply } ∧
      DocumentReply resource rows reply := by
  have hfail := Answer.ofRun_failed sent
  cases h with
  | refused cause => exact ⟨_, hfail _, .of_failed (.inl ⟨cause, rfl⟩)⟩
  | unreadable h column => exact ⟨_, hfail _, .of_failed (.inr ⟨_, rfl, h⟩)⟩
  | silent => exact ⟨_, hfail _, .of_pending⟩
  | @read records decoded h =>
    rw [Run.underDeadline_done, Run.map_done, Run.bind_done]
    -- No rows make no document, and any rows make a first one.
    cases hgroup : resource.shape.group decoded with
    | nil =>
      obtain rfl : decoded = [] := (resource.shape.group_eq_nil_iff decoded).mp hgroup
      obtain rfl : records = [] := by simpa using h
      refine ⟨_, ?_, .of_nil⟩
      simp only [List.head?_nil, existing, Run.fail, List.append_nil, Run.map_failed]
      rfl
    | cons document others =>
      refine ⟨_, ?_, .of_read h hgroup⟩
      simp only [List.head?_cons, existing, Run.pure_eq, List.append_nil, Run.map_done]
      rfl

/-- A look-up by a good id sends one call, and by any other none. -/
theorem answer_document {service : Service} {kind : Kind} {request : Request} {id : List Char}
    (hget : request.method = .get) (hne : id ≠ []) (hid : '/' ∉ id)
    (hpath : request.target.path = '/' :: Endpoint.segment kind ++ '/' :: id) :
    ((∀ n, ¬Names id n) → ∃ message,
      service.answer request = { sent := [], reply := some (refusal 400 message) }) ∧
    ∀ n, Names id n → ∃ call reply,
      service.answer request = { sent := [call], reply := some reply } ∧
        DocumentReply kind.resource (service.database.rows call) reply := by
  have hanswer : service.answer request = .ofRun (service.read request.target.query
      (.document kind id)) := answer_get hget (hpath ▸ Endpoint.ofPath?_document kind hne hid)
  constructor
  · intro hnone
    obtain ⟨reason, hread⟩ := readId_of_forall_not_names hnone
    exact ⟨(Failure.badRequest reason).summary, by rw [hanswer, read, hread]; rfl⟩
  · intro n hn
    obtain ⟨query, hdetail, hsound⟩ := kind.sound_detail n
    obtain ⟨call, hcall⟩ := hsound.exists_call
    obtain ⟨fetched, hdocuments, hfetch⟩ := fetch_documents hcall service.database kind.resource
    obtain ⟨reply, hreply, hspec⟩ := hfetch.documentReply [call]
    refine ⟨call, reply, ?_, hspec⟩
    rw [hanswer, ← hreply, read, readId_of_names hn, Run.ofExcept, Run.pure_eq, Run.bind_done,
      lookUp_of_detail hdetail, hdocuments]
    rfl

end Daybook.Service
