import Daybook.Service.Answer

/-!
# Replies to runs

Which run answers a path, and what a client is told at its end.
-/

namespace Daybook.Service.Endpoint

/-! ## Paths of endpoints

Every kind of document has a path for its listing, and below it one for each id.
-/

/-- Each kind is found under its own path. -/
theorem kindOf?_segment (kind : Resource.Kind) : kindOf? (segment kind) = some kind := by
  cases kind <;> decide +kernel

theorem slash_notMem_segment (kind : Resource.Kind) : '/' ∉ segment kind := by
  cases kind <;> decide +kernel

theorem ofPath?_listing (kind : Resource.Kind) :
    ofPath? ('/' :: segment kind) = some (listing kind) := by
  have hhealth : segment kind ≠ "health".toList := by cases kind <;> decide +kernel
  rw [ofPath?, Text.pieces_of_notMem (slash_notMem_segment kind)]
  simp only [if_neg hhealth, kindOf?_segment, Option.map_some]

/-- With an id after it, it is the document with this id, whatever the id looks like. -/
theorem ofPath?_document (kind : Resource.Kind) {id : List Char} (hne : id ≠ [])
    (hid : '/' ∉ id) :
    ofPath? ('/' :: segment kind ++ '/' :: id) = some (document kind id) := by
  rw [List.cons_append, ofPath?, Text.pieces_append_cons (slash_notMem_segment kind),
    Text.pieces_of_notMem hid]
  simp only [List.isEmpty_iff, if_neg hne, kindOf?_segment, Option.map_some]

end Daybook.Service.Endpoint

namespace Daybook.Service

open Http (Reply Request)

/-! ## Replies

A run that ended is answered with what it gave, or with a refusal that has no data and no count.
What went wrong on the side of the service is not told.
-/

def granted (data : Json) : Reply where
  status := 200
  contentType := some "application/json"
  body := some (.object [
    ("code", .number 200), ("message", .string "success"), ("data", data)])

/-- A reply that only says why there are no data. -/
def refusal (status : Nat) (message : String) : Reply where
  status := status
  contentType := some "application/json"
  body := some (.object [
    ("code", .number status), ("message", .string message), ("data", .null)])

/-- A failure tells its public message and never its cause. -/
theorem reply_eq_refusal (failure : Failure) :
    failure.reply = refusal failure.status failure.publicMessage := by
  cases failure <;> rfl

-- What a client that waits for the end of a run is told.
def Answer.ofRun (run : Run Reply) : Answer where
  sent := run.sent
  reply := match run.outcome with
    | .done reply => some reply
    | .failed failure => some failure.reply
    | .pending => none

theorem Answer.ofRun_failed (sent : List Sql.Call) (failure : Failure) :
    Answer.ofRun { sent, outcome := .failed failure } =
      { sent, reply := some (refusal failure.status failure.publicMessage) } := by
  rw [← reply_eq_refusal]
  rfl

/-- Reading is answered by what the path stands for. -/
theorem answer_get {service : Service} {request : Request} {endpoint : Endpoint}
    (hget : request.method = .get) (hpath : Endpoint.ofPath? request.target.path = some endpoint) :
    service.answer request = .ofRun (service.read request.target.query endpoint) := by
  have hrun : service.run request = service.read request.target.query endpoint := by
    rw [run, hpath, hget]
  rw [answer, hrun, hget, if_neg (by decide)]
  rfl

end Daybook.Service
