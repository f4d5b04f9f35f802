import Daybook.Document.TermPatch
import Daybook.Grouping.Stream
import Daybook.Resource.Basic
import Daybook.Resource.Catalogue
import Daybook.Service.Run

/-!
# The database

A database answers calls, or refuses them, or keeps silent.  Here its answers are turned into
documents and numbers.
-/

namespace Daybook.Listing

/-! ## Pages

What a listing gives: the documents of one page, and how many documents there are on all pages.
-/

structure Page (Out : Type) where
  items : List Out
  total : Int64
deriving DecidableEq

end Daybook.Listing

namespace Daybook.Service

/-! ## Reading documents -/

/-- What a database does with calls: an answer, a refusal with its reason, or nothing ever. -/
structure Database where
  rows : Sql.Call → Outcome String (List Document.Record)
  count : Sql.Call → Outcome String Int64
  -- The number of rows that an update changes.
  update : Sql.Call → Outcome String Nat
  -- The answer to a call that only asks whether the database is there.
  ping : Sql.Call → Outcome String Unit

namespace Database

variable {α : Type}

def unreachable (reason : String) : Database where
  rows _ := .failed reason
  count _ := .failed reason
  update _ := .failed reason
  ping _ := .failed reason

def send (statement : Sql.Compiled) (answer : Sql.Call → Outcome String α) : Run α :=
  match statement.call with
  | .error fault => .fail (.query fault)
  | .ok call => { sent := [call], outcome := (answer call).mapCause .database }

/-- The documents in the rows that a query gives.  One row that cannot be read spoils all. -/
def documents (database : Database) (resource : Resource) (query : Sql.Select) :
    Run (List resource.Out) := do
  let records ← send query.compile database.rows
  let rows := records.map fun record =>
    (resource.read record).mapError fun fault => Failure.database fault.column
  Run.ofExcept (resource.shape.collect rows)

def page (database : Database) (resource : Resource) (params : Listing.Params) :
    Run (Listing.Page resource.Out) :=
  match resource.listing params with
  | .error fault => .fail (.query fault)
  | .ok (rows, count) =>
    let read := (database.documents resource rows).both (send count.compile database.count)
    (fun (items, total) => { items, total }) <$> read.underDeadline

def find (database : Database) (resource : Resource) (id : Int64) : Run (Option resource.Out) :=
  match resource.detail id with
  | .error fault => .fail (.query fault)
  | .ok query => List.head? <$> (database.documents resource query).underDeadline

def lookUp (database : Database) (resource : Resource) (id : Int64) : Run resource.Out := do
  match ← database.find resource id with
  | some document => return document
  | none => .fail (.notFound resource.name)

def pingCall : Sql.Call where
  sql := "SELECT 1"
  arguments := []

def isReachable (database : Database) : Run Bool where
  sent := [pingCall]
  outcome := match database.ping pingCall with
    | .done _ => .done true
    | .failed _ => .done false
    | .pending => .pending

end Database


open Document (PaymentTerm TermPatch)
open Resource (paymentTerms)

/-! ## Revisions

A payment term is revised in two steps: an update of the columns that the patch assigns, if it
assigns any, and then the look-up that also answers a plain request.
-/

namespace Database

/-- Updates the payment term with an id.  Where nothing is assigned nothing is sent. -/
def assign (database : Database) (id : Int64) (updates : Sql.UpdateSet) : Run Unit :=
  match updates.statement? "id" id with
  | none => pure ()
  | some update => do
    let changed ← send update.compile database.update
    if changed = 0 then .fail (.notFound paymentTerms.name)

def revise (database : Database) (id : Int64) (patch : TermPatch) : Run PaymentTerm :=
  match patch.complaint? with
  | some complaint => .fail (.badRequest complaint)
  | none => do
    database.assign id patch.updates
    database.lookUp paymentTerms id

end Database

end Daybook.Service
