/-!
# JSON values

The values that answers are made of.  Numbers are whole, and the members of an object keep their
order.
-/

namespace Daybook

inductive Json
  | null
  | bool (value : Bool)
  | number (value : Int)
  | string (value : String)
  | array (items : List Json)
  | object (members : List (String × Json))

namespace Json

/-- A value that may be missing; a missing one is null. -/
def ofOption {α : Type} (render : α → Json) : Option α → Json
  | none => null
  | some a => render a

variable {α : Type} {render : α → Json}

-- Null tells that a value is missing, as long as no value is told as null.
theorem ofOption_inj (hrender : ∀ a b, render a = render b → a = b) (hnull : ∀ a, render a ≠ null)
    {a b : Option α} : ofOption render a = ofOption render b ↔ a = b := by
  refine ⟨fun h => ?_, congrArg _⟩
  cases a with
  | none =>
    cases b with
    | none => rfl
    | some b => exact absurd h.symm (hnull b)
  | some a =>
    cases b with
    | none => exact absurd h (hnull a)
    | some b => exact congrArg some (hrender a b h)

/-- No object in a value, however deep it lies, names two of its members alike. -/
inductive Distinct : Json → Prop
  | null : Distinct null
  | bool (value : Bool) : Distinct (bool value)
  | number (value : Int) : Distinct (number value)
  | string (value : String) : Distinct (string value)
  | array {items : List Json} (h : ∀ item ∈ items, item.Distinct) : Distinct (array items)
  | object {members : List (String × Json)} (hnames : (members.map Prod.fst).Nodup)
    (h : ∀ member ∈ members, member.2.Distinct) : Distinct (object members)

attribute [simp] Distinct.null Distinct.bool Distinct.number Distinct.string

@[simp] theorem Distinct.ofOption (h : ∀ a, (render a).Distinct) (a : Option α) :
    (ofOption render a).Distinct := by
  cases a with
  | none => exact .null
  | some a => exact h a

@[simp] theorem Distinct.array_map (h : ∀ a, (render a).Distinct) (as : List α) :
    (Json.array (as.map render)).Distinct := .array (List.forall_mem_map.mpr fun a _ => h a)

end Json

end Daybook
