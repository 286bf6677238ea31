import TwoWay.Grammar.Body

/-!
The expressions of scripts: how a scripted rule works out values from the
answers it has kept. Every operation has a result for every kind of value; only
the reading of a number can turn its operand down.
-/

namespace TwoWay.Script

inductive Arithmetic where
  | add
  | sub
  | mul
  | div
  deriving DecidableEq, Repr

inductive Expr where
  | const (v : Value)
  /-- The answer kept under a name, as a value. -/
  | var (name : String)
  | global (name : String)
  /-- A group of the match kept under a name, by its number. -/
  | group (name : String) (index : Nat)
  | groupNamed (name groupName : String)
  | matchText (name : String)
  | matchStart (name : String)
  | kind (name : String)
  | isEmptyLiteral (name : String)
  | record (fields : List (String × Expr))
  | list (items : List Expr)
  | push (list item : Expr)
  | get (map : Expr) (key : String)
  | length (e : Expr)
  | readNumber (e : Expr)
  | arithmetic (op : Arithmetic) (a b : Expr)
  | less (a b : Expr)
  | equal (a b : Expr)
  | not (e : Expr)
  | and (a b : Expr)
  | or (a b : Expr)
  | isNil (e : Expr)
  | isSlot (e : Expr)
  | display (e : Expr)
  | typeName (e : Expr)
  | concat (es : List Expr)

/-- The answers that a body has kept, the latest first. -/
abbrev Env := List (String × Answer)

/-- The values that all bodies of a run share, the latest first. -/
abbrev Globals := List (String × Value)

namespace Env

def pattern? (env : Env) (name : String) : Option Pattern.Match :=
  match env.lookup name with
  | some (.pattern found) => some found
  | _ => none

end Env

def ofText? (text : Option String) : Value :=
  match text with
  | some s => .string s
  | none => .nil

def Arithmetic.apply : Arithmetic → Float → Float → Float
  | .add, a, b => a + b
  | .sub, a, b => a - b
  | .mul, a, b => a * b
  | .div, a, b => a / b

/-- The number that a value counts as in arithmetic. -/
def numeric (v : Value) : Float := v.number?.getD 0

def isTrue (v : Value) : Bool :=
  match v with
  | .bool b => b
  | _ => false

def lengthOf (v : Value) : Nat :=
  match v with
  | .string s => Text.byteLength s.toList
  | .list items => items.length
  | .map bindings => (Bindings.normal bindings).length
  | _ => 0

/-- The number written by some decimal digits, or what to say when the text is
not made of them. -/
def parseNumber (text : String) : Except String Value :=
  let digits := text.toList
  if !digits.isEmpty && digits.all Char.isDigit then
    let n := digits.foldl (fun n c => n * 10 + (c.toNat - 0x30)) 0
    .ok (.number (.ofScientific n false 0))
  else .error ("not a number: " ++ text)

/-- The value of an expression, or the message with which it turns its operand
down. Operands are worked out from left to right, and all of them. -/
def Expr.eval (env : Env) (globals : Globals) : Expr → Except String Value
  | .const v => .ok v
  | .var name => .ok ((env.lookup name).elim .nil Answer.value)
  | .global name => .ok ((globals.lookup name).getD .nil)
  | .group name index => .ok (ofText? ((env.pattern? name).bind (·.group? index)))
  | .groupNamed name groupName => .ok (ofText? ((env.pattern? name).bind (·.name? groupName)))
  | .matchText name => .ok (ofText? ((env.pattern? name).bind (·.string?)))
  | .matchStart name =>
      .ok ((env.pattern? name).elim .nil fun found => .number (.ofNat found.start))
  | .kind name =>
      .ok <| match env.lookup name with
        | some (.literal _) => .string "literal"
        | some (.pattern _) => .string "pattern"
        | some (.rule _) => .string "rule"
        | none => .nil
  | .isEmptyLiteral name => .ok (.bool ((env.lookup name).elim false Answer.isEmptyLiteral))
  | .record fields => do return .record (← evalFields fields)
  | .list items => do return .list (← evalAll items)
  | .push l item => do
      let items ← l.eval env globals
      let v ← item.eval env globals
      return .list (items.list?.getD [] ++ [v])
  | .get m key => do return ((← m.eval env globals).get? key).getD .nil
  | .length e => do return .number (.ofNat (lengthOf (← e.eval env globals)))
  | .readNumber e => do parseNumber (← e.eval env globals).text
  | .arithmetic op a b => do
      let x ← a.eval env globals
      let y ← b.eval env globals
      return .number (op.apply (numeric x) (numeric y))
  | .less a b => do
      let x ← a.eval env globals
      let y ← b.eval env globals
      return .bool (numeric x < numeric y)
  | .equal a b => do
      let x ← a.eval env globals
      let y ← b.eval env globals
      return .bool (x == y)
  | .not e => do return .bool !isTrue (← e.eval env globals)
  | .and a b => do
      let x ← a.eval env globals
      let y ← b.eval env globals
      return .bool (isTrue x && isTrue y)
  | .or a b => do
      let x ← a.eval env globals
      let y ← b.eval env globals
      return .bool (isTrue x || isTrue y)
  | .isNil e => do return .bool (← e.eval env globals).isNil
  | .isSlot e => do return .bool (← e.eval env globals).slot?.isSome
  | .display e => do return .string (← e.eval env globals).text
  | .typeName e => do return .string (← e.eval env globals).typeName
  | .concat es => do return .string (String.join ((← evalAll es).map Value.text))
where
  evalAll : List Expr → Except String (List Value)
    | [] => .ok []
    | e :: rest => do
        let v ← e.eval env globals
        return v :: (← evalAll rest)
  evalFields : List (String × Expr) → Except String (List (String × Value))
    | [] => .ok []
    | (key, e) :: rest => do
        let v ← e.eval env globals
        return (key, v) :: (← evalFields rest)

end TwoWay.Script
