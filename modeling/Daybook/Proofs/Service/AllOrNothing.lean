import Daybook.Proofs.Resource.Binding
import Daybook.Proofs.Service.Documents
import Daybook.Proofs.Service.LookUp
import Daybook.Proofs.Service.Reply

/-!
# All or nothing

A listing and a look-up are answered with all that was asked for, or refused with nothing of it.
What they are refused with depends only on how the queries went.
-/

namespace Daybook.Service

open Document (Record)
open Http (Reply Request)
open Resource (Kind)

/-! ## Listings

A listing is answered with all documents of its rows and with their count, or refused.  A failure of
either query counts before a silence of the other.
-/

structure ListingReply (resource : Resource) (rows : Outcome String (List Record))
    (count : Outcome String Int64) (reply : Reply) : Prop where
  failed : RowsFail resource rows ∨ count.IsFailed → reply = refusal 500 "internal server error"
  late : ¬(RowsFail resource rows ∨ count.IsFailed) → rows = .pending ∨ count = .pending →
    reply = refusal 504 "query timed out"
  whole : ∀ records total, rows = .done records → count = .done total →
    ¬RowsFail resource rows →
    ∃ decoded documents, records.map resource.read = decoded.map .ok ∧
      resource.shape.Iterates decoded documents ∧
      reply = { granted (.array (documents.map resource.json)) with totalCount := some total }

variable {resource : Resource} {rows : Outcome String (List Record)}
  {fetched : Outcome Failure (List resource.Out)} {count : Outcome String Int64}

namespace ListingReply

/-- A statement that fails, or a row that cannot be read, is an internal error. -/
theorem of_failed (h : RowsFail resource rows ∨ count.IsFailed) :
    ListingReply resource rows count (refusal 500 "internal server error") where
  failed _ := rfl
  late hnot := absurd h hnot
  whole records total hrows hcount hread := by
    rcases h with hfailed | ⟨cause, hfailed⟩
    · exact absurd hfailed hread
    · cases hcount.symm.trans hfailed

/-- If nothing fails but one of the two is late, the time is up. -/
theorem of_late (hrows : ¬RowsFail resource rows) (hcount : ¬count.IsFailed)
    (hlate : rows = .pending ∨ count = .pending) :
    ListingReply resource rows count (refusal 504 "query timed out") where
  failed hfailed := absurd hfailed (not_or.mpr ⟨hrows, hcount⟩)
  late _ _ := rfl
  whole records total hdone hcounted _ := by
    rcases hlate with hlate | hlate
    · cases hdone.symm.trans hlate
    · cases hcounted.symm.trans hlate

/-- If all rows can be read and the count is there, they are granted together. -/
theorem of_read {records : List Record} {decoded : List resource.Row}
    (h : records.map resource.read = decoded.map .ok) (total : Int64) :
    ListingReply resource (.done records) (.done total)
      { granted (.array ((resource.shape.group decoded).map resource.json)) with
        totalCount := some total } where
  failed := by
    rintro (hfailed | ⟨cause, ⟨⟩⟩)
    exact absurd hfailed (not_rowsFail_of_read h)
  late _ hlate := by
    rcases hlate with hlate | hlate <;> cases hlate
  whole := by
    rintro _ _ ⟨⟩ ⟨⟩ _
    exact ⟨decoded, _, h, resource.shape.iterates_group decoded, rfl⟩

-- How the queries went leaves no choice of the status.
theorem status_eq {reply other : Reply} (h : ListingReply resource rows count reply)
    (h' : ListingReply resource rows count other) : reply.status = other.status := by
  by_cases hfailed : RowsFail resource rows ∨ count.IsFailed
  · rw [h.failed hfailed, h'.failed hfailed]
  · by_cases hlate : rows = .pending ∨ count = .pending
    · rw [h.late hfailed hlate, h'.late hfailed hlate]
    · obtain ⟨hrows, hcount⟩ := not_or.mp hfailed
      cases rows with
      | failed cause => exact absurd (.inl ⟨cause, rfl⟩) hrows
      | pending => exact absurd (.inl rfl) hlate
      | done records =>
        cases count with
        | failed cause => exact absurd ⟨cause, rfl⟩ hcount
        | pending => exact absurd (.inr rfl) hlate
        | done total =>
          obtain ⟨_, _, _, _, rfl⟩ := h.whole records total rfl rfl hrows
          obtain ⟨_, _, _, _, rfl⟩ := h'.whole records total rfl rfl hrows
          rfl

end ListingReply

/-- Whatever is fetched and counted, there is a reply to it. -/
theorem Fetch.listingReply (h : Fetch resource rows fetched) (count : Outcome String Int64)
    (sent : List Sql.Call) :
    ∃ reply, Answer.ofRun (pageReply resource.json <$>
        (fun (items, total) => Listing.Page.mk items total) <$>
          ({ sent, outcome := fetched.both (count.mapCause .database) } :
            Run (List resource.Out × Int64)).underDeadline) = { sent, reply := some reply } ∧
      ListingReply resource rows count reply := by
  have hfail := Answer.ofRun_failed sent
  cases h with
  | refused cause => exact ⟨_, hfail _, .of_failed (.inl (.inl ⟨cause, rfl⟩))⟩
  | unreadable h column => exact ⟨_, hfail _, .of_failed (.inl (.inr ⟨_, rfl, h⟩))⟩
  -- A count that failed is told even while the rows are still silent.
  | silent =>
    cases count with
    | failed cause => exact ⟨_, hfail _, .of_failed (.inr ⟨cause, rfl⟩)⟩
    | done total =>
      exact ⟨_, hfail _,
        .of_late not_rowsFail_pending (Outcome.not_isFailed_done total) (.inl rfl)⟩
    | pending =>
      exact ⟨_, hfail _,
        .of_late not_rowsFail_pending Outcome.not_isFailed_pending (.inl rfl)⟩
  | read h =>
    have hrows := not_rowsFail_of_read h
    cases count with
    | failed cause => exact ⟨_, hfail _, .of_failed (.inr ⟨cause, rfl⟩)⟩
    | pending => exact ⟨_, hfail _, .of_late hrows Outcome.not_isFailed_pending (.inr rfl)⟩
    | done total =>
      refine ⟨_, ?_, .of_read h total⟩
      simp only [Outcome.mapCause, Outcome.both, Run.underDeadline_done, Run.map_done]
      rfl

/-- A page is both statements under one deadline. -/
theorem page_of_listing {params : Listing.Params} {rows count : Sql.Select}
    (h : resource.listing params = .ok (rows, count)) (database : Database) :
    database.page resource params =
      (fun (items, total) => { items, total }) <$> ((database.documents resource rows).both
        (Database.send count.compile database.count)).underDeadline := by
  rw [Database.page, h]

/-- A listing always has its two calls and its one reply. -/
theorem answer_listing {service : Service} (hlimits : service.limits.Valid) {kind : Kind}
    (request : Request) (hget : request.method = .get)
    (hpath : request.target.path = '/' :: Endpoint.segment kind) :
    ∃ rows count reply,
      service.answer request = { sent := [rows, count], reply := some reply } ∧
        ListingReply kind.resource (service.database.rows rows) (service.database.count count)
          reply := by
  have hadmits : Listing.Policy.Admits ⟨kind.resource.rules.allow, service.limits⟩
      (service.readParams kind.resource request.target.query) :=
    Listing.Policy.admits_ofPairs hlimits (Http.Form.pairs request.target.query)
  obtain ⟨rows, count, hlisting, hrows, hcount⟩ := kind.sound_listing hlimits hadmits
  obtain ⟨rowsCall, hrowsCall⟩ := hrows.exists_call
  obtain ⟨countCall, hcountCall⟩ := hcount.exists_call
  obtain ⟨fetched, hdocuments, hfetch⟩ :=
    fetch_documents hrowsCall service.database kind.resource
  obtain ⟨reply, hanswer, hreply⟩ := hfetch.listingReply (service.database.count countCall)
    [rowsCall, countCall]
  refine ⟨rowsCall, countCall, reply, ?_, hreply⟩
  rw [answer_get hget (hpath ▸ Endpoint.ofPath?_listing kind), ← hanswer, read,
    page_of_listing hlisting, hdocuments, send_of_call hcountCall]
  rfl

/-! ## Listings and look-ups -/

/-- What the database does with a query does not depend on what is asked. -/
structure Database.Scripted (database : Database) : Prop where
  rows : ∀ call other, database.rows call = database.rows other
  count : ∀ call other, database.count call = database.count other

/-- A listing is answered with the documents of all its rows and their count, or refused: because a
query failed or a row cannot be read, even while the other query is still silent, and otherwise
because a query is silent.  Over a database that answers alike whatever it is asked, the query
string makes no difference to the status.  A look-up is answered with the first document of its
rows, or refused in the same way, and nothing is asked for an id that is no number. -/
theorem answers_all_or_nothing (service : Service) (kind : Kind) (request : Request)
    (hget : request.method = .get) :
    (service.limits.Valid → request.target.path = '/' :: Endpoint.segment kind →
      ∃ rows count reply,
        service.answer request = { sent := [rows, count], reply := some reply } ∧
        ListingReply kind.resource (service.database.rows rows) (service.database.count count)
          reply ∧
        (service.database.Scripted → ∀ query,
          (service.answer { request with target.query := query }).reply.map Reply.status =
            some reply.status)) ∧
    ∀ id, id ≠ [] → '/' ∉ id →
      request.target.path = '/' :: Endpoint.segment kind ++ '/' :: id →
      ((∀ n, ¬Names id n) → ∃ message,
        service.answer request = { sent := [], reply := some (refusal 400 message) }) ∧
      ∀ n, Names id n → ∃ call reply,
        service.answer request = { sent := [call], reply := some reply } ∧
        DocumentReply kind.resource (service.database.rows call) reply := by
  refine ⟨fun hlimits hpath => ?_, fun id hne hid hpath => answer_document hget hne hid hpath⟩
  obtain ⟨rows, count, reply, hanswer, hreply⟩ := answer_listing hlimits request hget hpath
  refine ⟨rows, count, reply, hanswer, hreply, fun hscripted query => ?_⟩
  obtain ⟨otherRows, otherCount, other, hother, hotherReply⟩ :=
    answer_listing hlimits { request with target.query := query } hget hpath
  rw [hscripted.rows otherRows rows, hscripted.count otherCount count] at hotherReply
  rw [hother, Option.map_some, hotherReply.status_eq hreply]

def namelessTerms : Service where
  database := {
    Database.unreachable "" with
    rows := fun _ => .done [
      ⟨[("id", .integer 1), ("name", .text "Net"), ("created_at", .text "2024-01-01")]⟩,
      ⟨[("id", .integer 2), ("created_at", .text "2024-01-01")]⟩]
    count := fun _ => .pending }
  limits := {}

/-- One term without a name spoils the listing, with any query string, and the look-up of any other
term. -/
theorem answers_of_nameless_terms :
    namelessTerms.limits.Valid ∧ namelessTerms.database.Scripted ∧ Names ['7'] 7 ∧
    (∃ rows count,
      namelessTerms.answer { target := ⟨"/payment-terms".toList, "limit=x".toList⟩ } =
        { sent := [rows, count], reply := some (refusal 500 "internal server error") }) ∧
    (∀ query, (namelessTerms.answer
      { target := ⟨"/payment-terms".toList, query⟩ }).reply.map Reply.status = some 500) ∧
    (∃ call, namelessTerms.answer { target := ⟨"/payment-terms/7".toList, []⟩ } =
      { sent := [call], reply := some (refusal 500 "internal server error") }) ∧
    ∃ message, namelessTerms.answer { target := ⟨"/payment-terms/x".toList, []⟩ } =
      { sent := [], reply := some (refusal 400 message) } := by
  have hvalid : namelessTerms.limits.Valid := ⟨by decide, by decide, by decide⟩
  have hscripted : namelessTerms.database.Scripted := ⟨fun _ _ => rfl, fun _ _ => rfl⟩
  have hfail : ∀ call, RowsFail Resource.paymentTerms (namelessTerms.database.rows call) :=
    fun _ => .inr ⟨_, rfl, _, List.mem_cons_of_mem _ List.mem_cons_self, ⟨"name"⟩, rfl⟩
  have hseven : Names ['7'] 7 :=
    ⟨['7'], by decide +kernel, .unsigned ⟨by decide, List.forall_mem_singleton.mpr rfl⟩⟩
  have hnumberless : ∀ n, ¬Names ['x'] n := by
    intro n h
    have hread : (readId ['x']).toOption = none := by decide +kernel
    rw [readId_of_names h] at hread
    cases hread
  obtain ⟨rows, count, reply, hanswer, hreply, hquery⟩ :=
    (answers_all_or_nothing namelessTerms .paymentTerm
      { target := ⟨"/payment-terms".toList, "limit=x".toList⟩ } rfl).1 hvalid rfl
  have hseventh := (answers_all_or_nothing namelessTerms .paymentTerm
    { target := ⟨"/payment-terms/7".toList, []⟩ } rfl).2 ['7'] (by decide) (by decide) rfl
  have hletter := (answers_all_or_nothing namelessTerms .paymentTerm
    { target := ⟨"/payment-terms/x".toList, []⟩ } rfl).2 ['x'] (by decide) (by decide) rfl
  obtain ⟨call, found, hfound, hdocument⟩ := hseventh.2 7 hseven
  obtain rfl := hreply.failed (.inl (hfail rows))
  obtain rfl := hdocument.failed (hfail call)
  exact ⟨hvalid, hscripted, hseven, ⟨rows, count, hanswer⟩, hquery hscripted, ⟨call, hfound⟩,
    hletter.1 hnumberless⟩

end Daybook.Service
