/-!
# Children

The children of a document that is being filled, in order of arrival, each under its key.  A row
either brings a new child or belongs to one that is there; which of the two is decided by the last
child alone, or by all of them.
-/

namespace Daybook.Grouping

universe u v w

variable {Key : Type u} {Item : Type v}

structure Children (Key : Type u) (Item : Type v) where
  entries : List (Key × Item) := []
deriving DecidableEq

/-- The child that a row belongs to: its position, and whether the row brought it. -/
structure Place where
  position : Nat
  isNew : Bool
deriving DecidableEq, Repr

namespace Children

def items (children : Children Key Item) : List Item :=
  children.entries.map Prod.snd

def keys (children : Children Key Item) : List Key :=
  children.entries.map Prod.fst

def append (children : Children Key Item) (key : Key) (fresh : Item) :
    Place × Children Key Item :=
  (⟨children.entries.length, true⟩, ⟨children.entries ++ [(key, fresh)]⟩)

/-- Adds a child unless the last one has its key.  This suits the children that the rows are ordered
by: the rows of one child are neighbours.  A row without a key has no child. -/
def upsertLast [BEq Key] (children : Children Key Item) (key : Option Key) (fresh : Item) :
    Option Place × Children Key Item :=
  match key with
  | none => (none, children)
  | some key =>
    if children.entries.getLast?.any fun entry => entry.1 == key then
      (some ⟨children.entries.length - 1, false⟩, children)
    else (children.append key fresh).map some id

/-- Adds a child unless one has its key already.  This suits children that are joined beside others
and come back once for each of those.  A row without a key has no child. -/
def insertUnique [BEq Key] (children : Children Key Item) (key : Option Key) (fresh : Item) :
    Option Place × Children Key Item :=
  match key with
  | none => (none, children)
  | some key =>
    match children.entries.findIdx? fun entry => entry.1 == key with
    | some position => (some ⟨position, false⟩, children)
    | none => (children.append key fresh).map some id

def modify (children : Children Key Item) (position : Nat) (change : Item → Item) :
    Children Key Item :=
  ⟨children.entries.modify position fun (key, item) => (key, change item)⟩

end Children

inductive Recurrence
  | adjacent
  | anywhere
deriving DecidableEq, Repr

def Children.place [BEq Key] (recurrence : Recurrence) (children : Children Key Item)
    (key : Option Key) (fresh : Item) : Option Place × Children Key Item :=
  match recurrence with
  | .adjacent => children.upsertLast key fresh
  | .anywhere => children.insertUnique key fresh

/-- Adds a child by the rule for its recurrence, and changes the child that the row belongs to. -/
def Children.placeAnd [BEq Key] (recurrence : Recurrence) (children : Children Key Item)
    (key : Option Key) (fresh : Item) (change : Item → Item) : Children Key Item :=
  match children.place recurrence key fresh with
  | (some place, children) => children.modify place.position change
  | (none, children) => children

/-! ## Children in two lists

Children whose keys stand in one list and whose items stand in another.  Only the way in which the
lists are filled keeps them in step.  An item is made when a row brings a new child and not before,
so whatever it is made from tells whether one was made.
-/

variable {Supply : Type w}

structure ChildLists (Key : Type u) (Item : Type v) where
  keys : List Key := []
  items : List Item := []
deriving DecidableEq

namespace ChildLists

def position? (lists : ChildLists Key Item) (position : Nat) : Option Nat :=
  if position < lists.items.length then some position else none

def lastPosition? (lists : ChildLists Key Item) : Option Nat :=
  lists.position? (lists.items.length - 1)

def append (lists : ChildLists Key Item) (key : Key) (make : Supply → Item × Supply)
    (supply : Supply) : Option Nat × ChildLists Key Item × Supply :=
  let (item, supply) := make supply
  let lists : ChildLists Key Item := ⟨lists.keys ++ [key], lists.items ++ [item]⟩
  (lists.lastPosition?, lists, supply)

def upsertLast [BEq Key] (lists : ChildLists Key Item) (key : Option Key)
    (make : Supply → Item × Supply) (supply : Supply) :
    Option Nat × ChildLists Key Item × Supply :=
  match key with
  | none => (none, lists, supply)
  | some key =>
    if lists.keys.getLast?.any (· == key) then (lists.lastPosition?, lists, supply)
    else lists.append key make supply

def insertUnique [BEq Key] (lists : ChildLists Key Item) (key : Option Key)
    (make : Supply → Item × Supply) (supply : Supply) :
    Option Nat × ChildLists Key Item × Supply :=
  match key with
  | none => (none, lists, supply)
  | some key =>
    match lists.keys.findIdx? (· == key) with
    | some position => (lists.position? position, lists, supply)
    | none => lists.append key make supply

def place [BEq Key] (recurrence : Recurrence) (lists : ChildLists Key Item) (key : Option Key)
    (make : Supply → Item × Supply) (supply : Supply) :
    Option Nat × ChildLists Key Item × Supply :=
  match recurrence with
  | .adjacent => lists.upsertLast key make supply
  | .anywhere => lists.insertUnique key make supply

def modify (lists : ChildLists Key Item) (position : Nat) (change : Item → Item) :
    ChildLists Key Item :=
  { lists with items := lists.items.modify position change }

end ChildLists

/-! ### Visits -/

/-- A visit to children: the rule by which the key that it names is looked for, how an item is made
if there is none for it, and what the visit makes of the item that it is given. -/
structure Visit (Key : Type u) (Item : Type v) (Supply : Type w) where
  recurrence : Recurrence
  key : Option Key
  make : Supply → Item × Supply
  change : Item → Item

namespace Visit

variable [BEq Key]

/-- The position of the item that a visit is given, and what it leaves. -/
def toLists (visit : Visit Key Item Supply) (state : ChildLists Key Item × Supply) :
    Option Nat × ChildLists Key Item × Supply :=
  match state.1.place visit.recurrence visit.key visit.make state.2 with
  | (some position, lists, supply) => (some position, lists.modify position visit.change, supply)
  | (none, lists, supply) => (none, lists, supply)

/-- The same visit to children that stand with their keys.  What an item is made from is used up
only if the visit brings a new child. -/
def toChildren (visit : Visit Key Item Supply) (state : Children Key Item × Supply) :
    Option Place × Children Key Item × Supply :=
  let (fresh, rest) := visit.make state.2
  let place? := (state.1.place visit.recurrence visit.key fresh).1
  (place?, state.1.placeAnd visit.recurrence visit.key fresh visit.change,
    if place?.any Place.isNew then rest else state.2)

def listsAfter (state : ChildLists Key Item × Supply) (visits : List (Visit Key Item Supply)) :
    ChildLists Key Item × Supply :=
  visits.foldl (fun state visit => (visit.toLists state).2) state

def childrenAfter (state : Children Key Item × Supply) (visits : List (Visit Key Item Supply)) :
    Children Key Item × Supply :=
  visits.foldl (fun state visit => (visit.toChildren state).2) state

end Visit

end Daybook.Grouping
