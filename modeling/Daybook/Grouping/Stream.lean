import Daybook.Grouping.Shape

/-!
# Streams that may fail

Rows from a database arrive one by one, and any of them may be an error.  The first error ends the
stream of documents and takes the document that is being filled with it.
-/

namespace Daybook.Grouping

universe u v w x y

variable {Row : Type u} {Key : Type v} {State : Type w} {Out : Type x} {Err : Type y} [BEq Key]

/-- What a stream gave, and how many items of its source it had consumed by then. -/
structure Yield (Err : Type y) (Out : Type x) where
  item : Except Err Out
  pulled : Nat

namespace Shape

def yieldsFrom (shape : Shape Row Key State Out) (grouper : Grouper Key State) (pulled : Nat) :
    List (Except Err Row) → List (Yield Err Out)
  | [] => (shape.finish grouper).1.toList.map fun out => ⟨.ok out, pulled⟩
  | .error err :: _ => [⟨.error err, pulled + 1⟩]
  | .ok row :: items =>
    let (out, grouper) := shape.push grouper row
    (out.toList.map fun out => ⟨.ok out, pulled + 1⟩) ++ shape.yieldsFrom grouper (pulled + 1) items

def yields (shape : Shape Row Key State Out) (items : List (Except Err Row)) :
    List (Yield Err Out) :=
  shape.yieldsFrom {} 0 items

-- All documents of a stream, or its first error and none of them.
def collect (shape : Shape Row Key State Out) (items : List (Except Err Row)) :
    Except Err (List Out) :=
  (shape.yields items).mapM Yield.item

end Shape

end Daybook.Grouping
