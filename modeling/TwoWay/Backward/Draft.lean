import TwoWay.Needle
import TwoWay.Pattern

/-!
The output of an inversion while it is being made: the components put out so
far, and the slots, which are components whose text is still to be found.

A terminal value settles the draft when it meets the needle. It must be a map
with the needle's keys; a plain field must equal the needle's, and for a field
that is a slot the needle's text must be accepted by the slot's pattern, and is
then written into the slot's component. When one field fails nothing is
written.
-/

namespace TwoWay.Backward

/-- A component to be filled from the needle. -/
structure Slot where
  component : Nat
  pattern : Pattern

structure Draft where
  components : List String
  slots : List Slot
  /-- Whether a terminal value has met the needle. -/
  resolved : Bool

namespace Draft

def empty : Draft := ⟨[], [], false⟩

def push (d : Draft) (text : String) : Draft :=
  { d with components := d.components ++ [text] }

/-- Puts out an empty component with a slot for it, whose handle is given. -/
def reserve (d : Draft) (p : Pattern) : Handle × Draft :=
  (⟨d.slots.length⟩,
    { d with
      components := d.components ++ [""]
      slots := d.slots ++ [⟨d.components.length, p⟩] })

/-- Takes back what was put out after the draft was `mark`. -/
def rollback (d mark : Draft) : Draft :=
  { d with
    components := d.components.take mark.components.length
    slots := d.slots.take mark.slots.length }

/-- What has to be written so that the field `actual` of a terminal value meets
`expected`: nothing for an equal value, the text for a slot that accepts it. -/
def writesForField? (d : Draft) (expected actual : Value) : Option (List (Nat × String)) :=
  match actual with
  | .slot handle =>
      match d.slots[handle.index]?, expected.needleText? with
      | some slot, some text =>
          if slot.pattern.accepts text.toList then some [(slot.component, text)] else none
      | _, _ => none
  | actual => if actual == expected then some [] else none

/-- What has to be written so that a terminal value meets all of some fields, in
their order. -/
def writesFor? (d : Draft) (actual : Value) :
    List (String × Value) → Option (List (Nat × String))
  | [] => some []
  | (key, expected) :: rest =>
      match actual.get? key with
      | none => none
      | some value =>
          match d.writesForField? expected value with
          | none => none
          | some writes => (d.writesFor? actual rest).map (writes ++ ·)

def write (d : Draft) (writes : List (Nat × String)) : Draft :=
  { d with
    components := writes.foldl (fun cs (component, text) => cs.set component text) d.components }

/-- The draft settled by a terminal value, if the value meets the needle, whose
fields are visited in the order of `fields`. -/
def settleInOrder? (d : Draft) (needle : Needle) (fields : List (String × Value))
    (value : Value) : Option Draft :=
  match value.fields? with
  | none => none
  | some own =>
      if own.length = needle.size then
        (d.writesFor? value fields).map fun writes =>
          { d.write writes with resolved := true }
      else none

/-- The fields of the needle are visited in the order of their keys. -/
def settle? (d : Draft) (needle : Needle) (value : Value) : Option Draft :=
  d.settleInOrder? needle needle.fields value

end Draft

end TwoWay.Backward
