import TwoWay.Value.Basic

/-!
Documents of nulls, truth values, numbers, texts, arrays and objects; the
values they stand for; and the documents that show a value with the types of its
parts.
-/

namespace TwoWay

/-- A JSON document, its numbers already read. -/
inductive Json where
  | null
  | bool (b : Bool)
  | number (n : Float)
  | string (s : String)
  | array (items : List Json)
  | object (fields : List (String × Json))

namespace Value

/-- The value of a document. The last field of a name in an object counts. -/
def ofJson : Json → Value
  | .null => .nil
  | .bool b => .bool b
  | .number n => .number n
  | .string s => .string s
  | .array items => .list (ofItems items)
  | .object fields => record (ofFields fields)
where
  ofItems : List Json → List Value
    | [] => []
    | j :: rest => ofJson j :: ofItems rest
  ofFields : List (String × Json) → List (String × Value)
    | [] => []
    | (k, j) :: rest => (k, ofJson j) :: ofFields rest

/-- The document of a value in which every part names its type. Nothing is the
name alone, and anything else an object with the name for its one field. -/
def tagged : Value → Json
  | .nil => .string "Nil"
  | .number n => .object [("Number", .number n)]
  | .string s => .object [("String", .string s)]
  | .bool b => .object [("Bool", .bool b)]
  | .list items => .object [("List", .array (taggedItems items))]
  | .map bindings => .object [("Map", .object (Bindings.normal (taggedFields bindings)))]
  | .slot handle => .object [("Slot", .number (.ofNat handle.index))]
where
  taggedItems : List Value → List Json
    | [] => []
    | v :: rest => v.tagged :: taggedItems rest
  taggedFields : List (String × Value) → List (String × Json)
    | [] => []
    | (k, v) :: rest => (k, v.tagged) :: taggedFields rest

end Value

end TwoWay
