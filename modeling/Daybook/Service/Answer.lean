import Daybook.Http.MediaType
import Daybook.Http.Message
import Daybook.Listing.Intake
import Daybook.Resource.Catalogue
import Daybook.Service.Database
import Daybook.Service.Run

/-!
# Answers

How a request is answered: the endpoint that its path names, the work that is done there, and the
envelope around what comes of it.
-/

namespace Daybook.Service

open Http (Reply)

/-! ## Envelopes

The one form of every answer: a code, a message and the data that was asked for, or null.
-/

structure Envelope where
  code : Nat
  message : String
  data : Json

namespace Envelope

def ok (data : Json) : Envelope where
  code := 200
  message := "success"
  data := data

def error (code : Nat) (message : String) : Envelope where
  code := code
  message := message
  data := .null

def json (envelope : Envelope) : Json :=
  .object [
    ("code", .number envelope.code),
    ("message", .string envelope.message),
    ("data", envelope.data)]

/-- The status of an envelope: its code, if that is one of three digits. -/
def status (envelope : Envelope) : Nat :=
  if 100 ≤ envelope.code ∧ envelope.code ≤ 999 then envelope.code else 500

def reply (envelope : Envelope) : Reply :=
  .ofJson envelope.status envelope.json

end Envelope

def pageReply {Out : Type} (json : Out → Json) (page : Listing.Page Out) : Reply :=
  { (Envelope.ok (.array (page.items.map json))).reply with totalCount := some page.total }

def documentReply {Out : Type} (json : Out → Json) (document : Out) : Reply :=
  (Envelope.ok (json document)).reply

def Failure.reply (failure : Failure) : Reply :=
  (Envelope.error failure.status failure.publicMessage).reply

/-! ## Endpoints

The paths that are answered.  A path counts as it is written; percent escapes in it are left alone,
so that only the id at the end of a path is ever decoded.
-/

inductive Endpoint
  -- Whether the service and its database are there.
  | health
  | listing (kind : Resource.Kind)
  -- One document of a kind, by the id as it stands in the path.
  | document (kind : Resource.Kind) (id : List Char)
deriving DecidableEq, Repr

namespace Endpoint

def segment : Resource.Kind → List Char
  | .paymentTerm => "payment-terms".toList
  | .journalEntry => "journal-entries".toList
  | .quotation => "quotations".toList
  | .salesOrder => "sales-orders".toList

def kindOf? (s : List Char) : Option Resource.Kind :=
  Resource.Kind.all.find? fun kind => segment kind = s

def ofPath? : List Char → Option Endpoint
  | '/' :: path =>
    match Text.pieces '/' path with
    | [name] => if name = "health".toList then some health else (kindOf? name).map listing
    | [name, id] => if id.isEmpty then none else (kindOf? name).map (document · id)
    | _ => none
  | _ => none

def methods : Endpoint → List Http.Method
  | document .paymentTerm _ => [.get, .head, .patch]
  | _ => [.get, .head]

end Endpoint

end Daybook.Service

namespace Daybook

open Http (Reply Request)
open Document (TermPatch)

/-! ## Answering requests

Parameters of a listing that are not understood are passed over; an id or a patch that is not
understood is refused before anything is sent to the database.
-/

structure Service where
  database : Service.Database
  limits : Listing.PageLimits

namespace Service

/-! ### Reading requests -/

def readId (s : List Char) : Except Failure Int64 :=
  match Text.Utf8.text? (Text.Percent.decode (Text.Utf8.bytes s)) with
  | none => .error (.badRequest "Invalid URL: Invalid UTF-8 in `id`")
  | some text =>
    (Text.readInt64 text).mapError fun _ =>
      .badRequest ("Invalid URL: Cannot parse `" ++ String.ofList text ++ "` to a `i64`")

def sendsJson (request : Request) : Bool :=
  (request.contentType.bind fun type => Http.MediaType.read? type.toList).any Http.MediaType.isJson

-- What a client is told of a body that is no patch.  The words of the reader that come after this,
-- with the place of the fault in the body, are left out.
def patchComplaint : Json.Fault → String
  | .mismatch => "Failed to deserialize the JSON body into the target type"
  | .malformed | .truncated => "Failed to parse the request body as JSON"

def readPatch (request : Request) : Except Failure TermPatch :=
  if sendsJson request then
    (TermPatch.read request.body).mapError fun fault => .badRequest (patchComplaint fault)
  else .error (.badRequest "Expected request with `Content-Type: application/json`")

def readParams (service : Service) (resource : Resource) (query : List Char) : Listing.Params :=
  (Listing.Intake.ofPairs { allow := resource.rules.allow, limits := service.limits }
    (Http.Form.pairs query)).params

/-! ### Replies -/

def healthReply (reachable : Bool) : Reply :=
  .ofJson (if reachable then 200 else 503) (.object [
    ("status", .string (if reachable then "healthy" else "unhealthy")),
    ("postgres", .bool reachable)])

def nothingHere : Reply where
  status := 404

def wrongMethod (endpoint : Endpoint) : Reply where
  status := 405
  allowed := endpoint.methods

/-! ### Answering -/

def read (service : Service) (query : List Char) : Endpoint → Run Reply
  | .health => healthReply <$> service.database.isReachable
  | .listing kind =>
    let resource := kind.resource
    pageReply resource.json <$> service.database.page resource (service.readParams resource query)
  | .document kind id => do
    let resource := kind.resource
    let id ← Run.ofExcept (readId id)
    documentReply resource.json <$> service.database.lookUp resource id

def revise (service : Service) (request : Request) (id : List Char) : Run Reply := do
  let id ← Run.ofExcept (readId id)
  let patch ← Run.ofExcept (readPatch request)
  documentReply Document.PaymentTerm.json <$> service.database.revise id patch

def run (service : Service) (request : Request) : Run Reply :=
  match Endpoint.ofPath? request.target.path with
  | none => pure nothingHere
  | some endpoint =>
    match request.method, endpoint with
    | .get, _ | .head, _ => service.read request.target.query endpoint
    | .patch, .document .paymentTerm id => service.revise request id
    | _, _ => pure (wrongMethod endpoint)

/-- What becomes of a request: the calls that were sent for it, and the reply unless it is kept
waiting for ever. -/
structure Answer where
  sent : List Sql.Call
  reply : Option Reply

/-- Answers a request.  A failure is a reply like any other. -/
def answer (service : Service) (request : Request) : Answer :=
  let run := service.run request
  let reply := match run.outcome with
    | .done reply => some reply
    | .failed failure => some failure.reply
    | .pending => none
  { sent := run.sent
    reply := if request.method = .head then reply.map Reply.withoutBody else reply }

end Service

end Daybook
