import TwoWay.Defect
import TwoWay.Value.Json
import TwoWay.Value.Text

/-!
The target of an inversion: the fields that the terminal value must carry. A
needle has at least one field, and every field holds a primitive value.
-/

namespace TwoWay

structure Needle where
  /-- The fields, with their keys in increasing order. -/
  fields : List (String × Value)
  ordered : Bindings.Ordered fields
  nonempty : fields ≠ []
  primitive : ∀ field ∈ fields, field.2.isPrimitive = true

namespace Needle

/-- Makes a needle of entries; the last entry of a key counts. -/
def ofEntries (entries : List (String × Value)) : Except Defect Needle :=
  let fields := Bindings.ofEntries entries
  if nonempty : fields = [] then .error .emptyNeedle
  else
    match found : fields.find? fun field => !field.2.isPrimitive with
    | some (key, value) => .error (.compositeField key value.typeName)
    | none =>
        .ok {
          fields
          ordered := Bindings.ordered_normal entries.reverse
          nonempty
          primitive := by simpa using found }

def single (key : String) (value : Value) (primitive : value.isPrimitive = true) : Needle where
  fields := [(key, value)]
  ordered := List.pairwise_singleton _ _
  nonempty := by simp
  primitive := by simpa using primitive

def ofJson (json : Json) : Except Defect Needle :=
  match Value.ofJson json with
  | .map bindings => ofEntries bindings.reverse
  | other => .error (.needleNotMap other.typeName)

def get? (needle : Needle) (key : String) : Option Value := needle.fields.lookup key

def size (needle : Needle) : Nat := needle.fields.length

def isEmpty (needle : Needle) : Bool := needle.fields.isEmpty

def keys (needle : Needle) : List String := Bindings.keys needle.fields

def value (needle : Needle) : Value := .map needle.fields

/-- Needles are equal when they have the same keys with equal values. -/
instance : BEq Needle := ⟨fun a b => a.value == b.value⟩

end Needle

end TwoWay
