import Daybook.Grouping.Shape

/-!
# Cursors

A cursor draws rows from a source only as far as it needs them for the next document.  After the
last document it is exhausted, and asks its source for nothing more.
-/

namespace Daybook.Grouping

universe u v w x

variable {Row : Type u} {Key : Type v} {State : Type w} {Out : Type x} [BEq Key]

/-- A source of rows that keeps count of what was asked of it. -/
structure Source (Row : Type u) where
  rest : List Row
  pulled : Nat := 0
  -- How often it was asked for a row and had none.
  refused : Nat := 0

structure Cursor (Row : Type u) (Key : Type v) (State : Type w) where
  source : Source Row
  grouper : Grouper Key State := {}
  exhausted : Bool := false

namespace Shape

def cursor (_shape : Shape Row Key State Out) (rows : List Row) : Cursor Row Key State :=
  { source := { rest := rows } }

def draw (shape : Shape Row Key State Out) (grouper : Grouper Key State) (pulled refused : Nat) :
    List Row → Option Out × Cursor Row Key State
  | [] =>
    let (out, grouper) := shape.finish grouper
    (out, { source := { rest := [], pulled, refused := refused + 1 }, grouper, exhausted := true })
  | row :: rest =>
    match shape.push grouper row with
    | (some out, grouper) =>
      (some out, { source := { rest, pulled := pulled + 1, refused }, grouper })
    | (none, grouper) => shape.draw grouper (pulled + 1) refused rest

def next (shape : Shape Row Key State Out) (cursor : Cursor Row Key State) :
    Option Out × Cursor Row Key State :=
  if cursor.exhausted then (none, cursor)
  else shape.draw cursor.grouper cursor.source.pulled cursor.source.refused cursor.source.rest

/-- What `calls` calls of `next` give, each with the rows that were handed out by then. -/
def takeNext (shape : Shape Row Key State Out) (cursor : Cursor Row Key State) :
    Nat → List (Option Out × Nat)
  | 0 => []
  | calls + 1 =>
    let (out, cursor) := shape.next cursor
    (out, cursor.source.pulled) :: shape.takeNext cursor calls

end Shape

end Daybook.Grouping
