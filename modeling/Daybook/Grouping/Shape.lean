/-!
# Shapes and groupers

How joined rows fold into documents, all rows of one document at a time.
-/

namespace Daybook.Grouping

universe u v w x

/-! ## Shapes

A shape says which rows belong together, what a document starts from, how a row is added to it, and
what it becomes after its last row.
-/

/-- The folding of rows into documents.  Rows of one document have equal keys. -/
structure Shape (Row : Type u) (Key : Type v) (State : Type w) (Out : Type x) where
  key : Row → Key
  -- What a document starts from, read off its first row, which is then absorbed like the rest.
  opening : Row → State
  absorb : State → Row → State
  close : State → Out

variable {Row : Type u} {Key : Type v} {State : Type w} {Out : Type x}

namespace Shape

def begin (shape : Shape Row Key State Out) (row : Row) : State :=
  shape.absorb (shape.opening row) row

def document (shape : Shape Row Key State Out) (first : Row) (others : List Row) : Out :=
  shape.close (others.foldl shape.absorb (shape.begin first))

end Shape

/-! ## Groupers

A grouper takes joined rows one at a time and gives each document back as soon as a row of another
key arrives.  It trusts the rows of one document to be neighbours: a key that comes back later
starts a new document.
-/

variable [BEq Key]

structure Grouper (Key : Type v) (State : Type w) where
  current : Option (Key × State) := none

namespace Shape

-- Gives back the document that is being filled, if any, and is left empty.
def finish (shape : Shape Row Key State Out) (grouper : Grouper Key State) :
    Option Out × Grouper Key State :=
  (grouper.current.map fun (_, state) => shape.close state, {})

/-- Takes a row.  A row of another key gives back the document before it. -/
def push (shape : Shape Row Key State Out) (grouper : Grouper Key State) (row : Row) :
    Option Out × Grouper Key State :=
  match grouper.current with
  | some (key, state) =>
    if key == shape.key row then (none, ⟨some (key, shape.absorb state row)⟩)
    else (some (shape.close state), ⟨some (shape.key row, shape.begin row)⟩)
  | none => (none, ⟨some (shape.key row, shape.begin row)⟩)

-- The documents that the rest of the rows complete, the last one included.
def groupFrom (shape : Shape Row Key State Out) (grouper : Grouper Key State) :
    List Row → List Out
  | [] => (shape.finish grouper).1.toList
  | row :: rows =>
    let (out, grouper) := shape.push grouper row
    out.toList ++ shape.groupFrom grouper rows

def group (shape : Shape Row Key State Out) (rows : List Row) : List Out :=
  shape.groupFrom {} rows

end Shape

/-! ### Runs of steps -/

inductive Step (Row : Type u)
  | push (row : Row)
  | finish

def Shape.run (shape : Shape Row Key State Out) (grouper : Grouper Key State) :
    List (Step Row) → List (Option Out)
  | [] => []
  | .push row :: steps =>
    let (out, grouper) := shape.push grouper row
    out :: shape.run grouper steps
  | .finish :: steps =>
    let (out, grouper) := shape.finish grouper
    out :: shape.run grouper steps

end Daybook.Grouping
