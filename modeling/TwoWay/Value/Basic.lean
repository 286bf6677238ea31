import TwoWay.Bindings

/-!
The values that rules produce: nothing, numbers, texts, truth values, lists,
maps, and the handles that stand for text still to be found while a grammar is
run backwards.
-/

namespace TwoWay

/-- The place of a slot in the table of one inversion. -/
structure Handle where
  index : Nat
  deriving DecidableEq, Repr

/-- A value. Of several bindings of one key in a map the first one counts. -/
inductive Value where
  | nil
  | number (n : Float)
  | string (s : String)
  | bool (b : Bool)
  | list (items : List Value)
  | map (bindings : List (String × Value))
  | slot (handle : Handle)

namespace Value

instance : Inhabited Value := ⟨.nil⟩

/-- A map made from entries in order; the last entry of a key counts. -/
def record (entries : List (String × Value)) : Value :=
  .map (Bindings.ofEntries entries)

def typeName : Value → String
  | .nil => "Nil"
  | .number _ => "Number"
  | .string _ => "String"
  | .bool _ => "Bool"
  | .list _ => "List"
  | .map _ => "Map"
  | .slot _ => "Slot"

def isNil : Value → Bool
  | .nil => true
  | _ => false

/-- Whether the value may stand in a needle. -/
def isPrimitive : Value → Bool
  | .nil | .number _ | .string _ | .bool _ => true
  | _ => false

def number? : Value → Option Float
  | .number n => some n
  | _ => none

def bool? : Value → Option Bool
  | .bool b => some b
  | _ => none

def string? : Value → Option String
  | .string s => some s
  | _ => none

def list? : Value → Option (List Value)
  | .list items => some items
  | _ => none

/-- The fields of a map: each key once, in increasing order. -/
def fields? : Value → Option (List (String × Value))
  | .map bindings => some (Bindings.normal bindings)
  | _ => none

def slot? : Value → Option Handle
  | .slot handle => some handle
  | _ => none

def get? (v : Value) (key : String) : Option Value :=
  match v with
  | .map bindings => bindings.lookup key
  | _ => none

/-- Whether two values are equal. Numbers are equal as numbers, so zero equals
minus zero and no number equals a value that is not one; maps are equal when
they have the same keys and equal values under each. -/
protected def beq : Value → Value → Bool
  | .nil, .nil => true
  | .number a, .number b => a == b
  | .string a, .string b => a == b
  | .bool a, .bool b => a == b
  | .list as, .list bs => beqItems as bs
  | .map as, .map bs => Bindings.agree (Bindings.normal (tests as)) (Bindings.normal bs)
  | .slot a, .slot b => a == b
  | _, _ => false
where
  beqItems : List Value → List Value → Bool
    | [], [] => true
    | a :: as, b :: bs => Value.beq a b && beqItems as bs
    | _, _ => false
  tests : List (String × Value) → List (String × (Value → Bool))
    | [] => []
    | (k, v) :: rest => (k, fun w => Value.beq v w) :: tests rest

instance : BEq Value := ⟨Value.beq⟩

end Value

end TwoWay
