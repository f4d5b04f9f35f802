import Daybook.Json.Token
import Daybook.Sql.Statement
import Daybook.Text.Split

/-!
# Patches of payment terms

A patch names the columns of a payment term that are to change.  It is an object with the members
`name` and `description`, or an array of their values in that order.  A missing member leaves its
column alone; a null takes a description away.  Members of other names are passed over.
-/

namespace Daybook.Document

open Json (Fault Token Skip)

structure TermPatch where
  name : Option String := none
  -- What the description becomes, if it changes; it may become nothing.
  description : Option (Option String) := none
deriving DecidableEq

namespace TermPatch

/-! ## Reading -/

inductive Member
  | name
  | description
deriving DecidableEq, Repr

def Member.ofName? (name : String) : Option Member :=
  if name = "name" then some .name
  else if name = "description" then some .description
  else none

structure Draft where
  name : Option (Option String) := none
  description : Option (Option String) := none
deriving DecidableEq

def Draft.has (draft : Draft) : Member → Bool
  | .name => draft.name.isSome
  | .description => draft.description.isSome

def Draft.put (draft : Draft) (member : Member) (value : Option String) : Draft :=
  match member with
  | .name => { draft with name := some value }
  | .description => { draft with description := some value }

inductive Stage
  | start
  -- Before the first item of an array.
  | firstItem
  | afterFirstItem
  | secondItem
  | afterSecondItem
  | memberOrEnd
  | member
  -- After the name of a member, which counts or not.
  | colon (member : Option Member)
  | value (member : Member)
  | passing (skip : Skip)
  | commaOrEnd
  | done
deriving DecidableEq

-- The fault of a token where a text or null is asked for.
def wrongToken : Token → Fault
  | .bool _ | .null | .openArray | .openObject | .string (some _) => .mismatch
  | .number readable => if readable then .mismatch else .malformed
  | .brokenString reader _ | .broken reader _ => reader
  | _ => .malformed

def readValue : Token → Except Fault (Option String)
  | .null => .ok none
  | .string (some content) => .ok (some content)
  | token => .error (wrongToken token)

/-- The name of a member.  None may come twice. -/
def readName (draft : Draft) : Token → Except Fault Stage
  | .string (some name) =>
    match Member.ofName? name with
    | some member =>
      if draft.has member then .error .mismatch else .ok (.colon (some member))
    | none => .ok (.colon none)
  | .brokenString reader _ => .error reader
  | _ => .error .malformed

def step (state : Stage × Draft) (token : Token) : Except Fault (Stage × Draft) :=
  let (stage, draft) := state
  match stage, token with
  | .start, .openArray => .ok (.firstItem, draft)
  | .start, .openObject => .ok (.memberOrEnd, draft)
  | .start, token => .error (wrongToken token)
  | .firstItem, .closeArray => .error .mismatch
  | .firstItem, token =>
    (readValue token).map fun value => (.afterFirstItem, draft.put .name value)
  | .afterFirstItem, .comma => .ok (.secondItem, draft)
  | .secondItem, token =>
    (readValue token).map fun value => (.afterSecondItem, draft.put .description value)
  | .afterFirstItem, .closeArray | .afterSecondItem, .closeArray => .ok (.done, draft)
  | .memberOrEnd, .closeObject | .commaOrEnd, .closeObject => .ok (.done, draft)
  | .memberOrEnd, token | .member, token => (readName draft token).map fun stage => (stage, draft)
  | .colon (some member), .colon => .ok (.value member, draft)
  | .colon none, .colon => .ok (.passing {}, draft)
  | .value member, token =>
    (readValue token).map fun value => (.commaOrEnd, draft.put member value)
  | .passing skip, token =>
    (skip.step token).map fun left => (left.elim .commaOrEnd .passing, draft)
  | .commaOrEnd, .comma => .ok (.member, draft)
  | _, _ => .error .malformed

def read (text : List Char) : Except Fault TermPatch :=
  match (Json.tokens text).foldlM step (.start, {}) with
  | .error fault => .error fault
  | .ok (.done, draft) => .ok { name := draft.name.join, description := draft.description }
  | .ok _ => .error .truncated

/-! ## Checking and applying -/

/-- What is wrong with a patch: a name must not be blank. -/
def complaint? (patch : TermPatch) : Option String :=
  if patch.name.any fun name => (Text.trim name.toList).isEmpty then some "name must not be empty"
  else none

def updates (patch : TermPatch) : Sql.UpdateSet :=
  (({ table := "payment_terms" } : Sql.UpdateSet).set "name" (patch.name.map fun name =>
    .string (some name))).set "description" (patch.description.map .string)

end TermPatch

end Daybook.Document
