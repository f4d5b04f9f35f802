import Daybook.Grouping.Children
import Daybook.Grouping.Shape

/-!
# Trees of three levels

Parents with children with grandchildren, all given by their ids: the plainest documents that nest
twice.
-/

namespace Daybook.Grouping

structure TreeRow (Id : Type) where
  parent : Id
  child : Option Id
  grandchild : Option Id
deriving DecidableEq

structure Branch (Id : Type) where
  child : Id
  grandchildren : List Id
deriving DecidableEq

structure Tree (Id : Type) where
  parent : Id
  branches : List (Branch Id)
deriving DecidableEq

structure TreeState (Id : Type) where
  parent : Id
  children : Children Id (Children Id Unit) := {}

namespace TreeState

variable {Id : Type}

/-- Adds what a row holds: its child, and to that child its grandchild. -/
def absorb [BEq Id] (child grandchild : Recurrence) (state : TreeState Id) (row : TreeRow Id) :
    TreeState Id :=
  { state with
    children := state.children.placeAnd child row.child {}
      fun grandchildren => (grandchildren.place grandchild row.grandchild ()).2 }

def tree (state : TreeState Id) : Tree Id where
  parent := state.parent
  branches := state.children.entries.map fun (id, grandchildren) => ⟨id, grandchildren.keys⟩

end TreeState

def treeShape {Id : Type} [BEq Id] (child grandchild : Recurrence) :
    Shape (TreeRow Id) Id (TreeState Id) (Tree Id) where
  key := TreeRow.parent
  opening row := { parent := row.parent }
  absorb := TreeState.absorb child grandchild
  close := TreeState.tree

end Daybook.Grouping
