import FilterQuery.Binding.Encode

/-!
# Parameter lists

The values of a statement's placeholders in order. Placeholders count from 1.
-/

namespace FilterQuery.Binding

/-- The values of placeholders. -/
structure Parameters where
  values : List Json := []

namespace Parameters

/-- Puts a value behind the others; the placeholder it is for is the new size of the list. -/
def push (p : Parameters) (value : Json) : Parameters := ⟨p.values ++ [value]⟩

/-- The number of values. -/
def size (p : Parameters) : Nat := p.values.length

/-- There are no values. -/
def isEmpty (p : Parameters) : Bool := p.values.isEmpty

@[simp] theorem size_push (p : Parameters) (value : Json) : (p.push value).size = p.size + 1 := by
  simp [push, size]

@[simp] theorem values_push (p : Parameters) (value : Json) :
    (p.push value).values = p.values ++ [value] := rfl

/-- The bytes of the value at a position counted from 0, if there is one. -/
def encode? (p : Parameters) (position : Nat) (type : SqlType) :
    Option (Except Problem (Option (List UInt8))) :=
  p.values[position]?.map (encodeChecked type)

end Parameters

end FilterQuery.Binding
