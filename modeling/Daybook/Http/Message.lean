import Daybook.Json.Value
import Daybook.Text.Split
import Daybook.Text.Utf8

/-!
# Requests and replies

What a client sends and what it gets back, as far as the service looks at it.
-/

namespace Daybook.Http

inductive Method
  | get
  | head
  | patch
  | other (name : String)
deriving DecidableEq, Repr

namespace Method

def ofName (name : String) : Method :=
  if name = "GET" then get
  else if name = "HEAD" then head
  else if name = "PATCH" then patch
  else other name

def name : Method → String
  | get => "GET"
  | head => "HEAD"
  | patch => "PATCH"
  | other name => name

end Method

structure Target where
  path : List Char
  query : List Char
deriving DecidableEq, Repr

namespace Target

/-- The target that stands in a URI after its host.  The query starts after the first question
mark; what follows a number sign is not for the service.  With no path the root is meant. -/
def ofPathAndQuery (s : List Char) : Target :=
  let s := ((Text.cut? '#' s).map Prod.fst).getD s
  let (path, query) := (Text.cut? '?' s).getD (s, [])
  { path := if path.isEmpty then ['/'] else path, query }

def afterHost? (uri : List Char) : Option (List Char) :=
  match Text.cut? ':' uri with
  | some (_, '/' :: '/' :: s) => some (s.dropWhile fun c => c ≠ '/' && c ≠ '?' && c ≠ '#')
  | _ => none

/-- The target that a well-formed URI names: a path, an asterisk for the service as a whole, or a
path on a host.  A host and no scheme stands for no path at all. -/
def ofUri : List Char → Target
  | '/' :: s => ofPathAndQuery ('/' :: s)
  | ['*'] => { path := ['*'], query := [] }
  | uri => ((afterHost? uri).map ofPathAndQuery).getD { path := [], query := [] }

end Target

/-- A request that has arrived whole.  A body that is longer than the two megabytes that are taken,
or that is no UTF-8, is left out. -/
structure Request where
  method : Method := .get
  target : Target
  -- The type of the body, if the client names one.
  contentType : Option String := none
  body : List Char := []
deriving DecidableEq

structure Reply where
  status : Nat
  -- How many documents there are on all pages, with a listing.
  totalCount : Option Int64 := none
  -- The methods that could have been used, when another one was.
  allowed : List Method := []
  contentType : Option String := none
  body : Option Json := none

namespace Reply

def ofJson (status : Nat) (value : Json) : Reply :=
  { status, contentType := some "application/json", body := some value }

def withoutBody (reply : Reply) : Reply :=
  { reply with body := none }

def allow? (reply : Reply) : Option String :=
  if reply.allowed.isEmpty then none
  else some (",".intercalate (reply.allowed.map Method.name))

end Reply

end Daybook.Http

namespace Daybook.Http.Form

open Text

/-! ## Form encoding

The pairs in the query of a URL: `name=value` between ampersands.  A plus sign is a blank, and other
characters may be written as percent escapes of their UTF-8 bytes.  Reading never fails.
-/

def decode (s : List Char) : String :=
  let bytes := Utf8.bytes (s.map fun c => if c = '+' then ' ' else c)
  .ofList (Utf8.textWithReplacements (Percent.decode bytes))

/-- The pair in one segment.  Without an equals sign the whole segment is the name. -/
def pair (segment : List Char) : String × String :=
  let (name, value) := (cut? '=' segment).getD (segment, [])
  (decode name, decode value)

def pairs (query : List Char) : List (String × String) :=
  ((pieces '&' query).filter fun segment => !segment.isEmpty).map pair

end Daybook.Http.Form
