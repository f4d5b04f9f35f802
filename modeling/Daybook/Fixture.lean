import Daybook.Calendar
import Daybook.Grouping.Children
import Daybook.Grouping.Shape

/-!
# Fixtures

Dates and joined rows for trying out the grouping of rows, and checks of their order.
-/

namespace Daybook.Fixture

/-! ## Rows and checks

A check tells the first place where the order is broken.
-/

/-! ### Dates -/

def noSuchDate : String := "valid fixture date"

def date (year : Int) (month day : Nat) : Except String Date :=
  match Date.of? year month day with
  | some date => .ok date
  | none => .error noSuchDate

/-! ### Rows -/

/-- A row with a parent and, if the parent has any, one of its children. -/
structure KeyedRow where
  parent : Nat
  child : Option Nat
deriving DecidableEq, Repr

/-- Rows for parents numbered from `parent` on, with `counts` children each, the children numbered
from `child` on.  A parent without children has one row. -/
def keyedRowsFrom (parent child : Nat) : List Nat → List KeyedRow
  | [] => []
  | 0 :: counts => ⟨parent, none⟩ :: keyedRowsFrom (parent + 1) child counts
  | count :: counts =>
    (List.range' child count).map (⟨parent, some ·⟩) ++
      keyedRowsFrom (parent + 1) (child + count) counts

/-- Rows for as many parents as there are counts, each with that many children.  Parents and
children are numbered from 1. -/
def keyedRows (counts : List Nat) : List KeyedRow :=
  keyedRowsFrom 1 1 counts

def parentKeys (rows : List KeyedRow) : List Nat :=
  rows.map KeyedRow.parent

/-! ### Groups that are contiguous -/

/-- A key that comes back after rows of another key. -/
structure Reappearance (Key : Type) where
  index : Nat
  key : Key
deriving DecidableEq, Repr

/-- The first key that comes back, where `current` is the key of the open group, `closed` are the
keys of the groups before it, and `index` is the next row. -/
def reappearanceFrom? {Key : Type} [BEq Key] (index : Nat) (closed : List Key)
    (current : Option Key) : List Key → Option (Reappearance Key)
  | [] => none
  | key :: keys =>
    if current == some key then reappearanceFrom? (index + 1) closed current keys
    else if closed.contains key then some ⟨index, key⟩
    else reappearanceFrom? (index + 1) (closed ++ current.toList) (some key) keys

def reappearance? {Key : Type} [BEq Key] (keys : List Key) : Option (Reappearance Key) :=
  reappearanceFrom? 0 [] none keys

def Reappearance.message {Key : Type} [ToString Key] (fault : Reappearance Key) : String :=
  s!"key {fault.key} reappears at row {fault.index} after its group ended"

/-! ### Values that never decrease -/

-- Two neighbours of which the second is less.
structure Descent where
  index : Nat
  left : Int
  right : Int
deriving DecidableEq, Repr

def descentFrom? (index : Nat) : List Int → Option Descent
  | a :: b :: values =>
    if a ≤ b then descentFrom? (index + 1) (b :: values) else some ⟨index, a, b⟩
  | _ => none

def descent? (values : List Int) : Option Descent :=
  descentFrom? 0 values

def Descent.message (fault : Descent) : String :=
  s!"values descend at {fault.index}: {fault.left} > {fault.right}"


open Grouping

/-! ## Families

Fixture rows folded into families, each a parent with the children that its rows name: the plainest
documents that nest once.
-/

structure Family where
  parent : Nat
  children : List Nat
deriving DecidableEq, Repr

structure FamilyState where
  parent : Nat
  children : Children Nat Nat := {}

namespace FamilyState

/-- Adds the child that a row names, unless the last one is the same. -/
def absorb (state : FamilyState) (row : KeyedRow) : FamilyState :=
  match row.child with
  | some child => { state with children := (state.children.upsertLast (some child) child).2 }
  | none => state

def family (state : FamilyState) : Family where
  parent := state.parent
  children := state.children.items

end FamilyState

def familyShape : Shape KeyedRow Nat FamilyState Family where
  key := KeyedRow.parent
  opening row := { parent := row.parent }
  absorb := FamilyState.absorb
  close := FamilyState.family

end Daybook.Fixture
