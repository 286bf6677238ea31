import TwoWay.Grammar.Node
import TwoWay.Value.Text

/-!
The bodies of rules. A body is a computation that asks its session for nodes and
goes on with the answers; it cannot tell whether the session reads text or
synthesizes it. Beside its session it may use a memory that all bodies of a run
share.

A body is a tree: each request branches over the answers it may get. Running it
against a session walks down one path.
-/

namespace TwoWay

/-- Why a body stopped before it had a value. -/
inductive Halt where
  /-- No alternative matched; the session knows which. -/
  | mismatch
  /-- The grammar turned down what had matched. -/
  | rejected (message : String)
  /-- A rule on the way has met the target of the inversion. -/
  | resolved
  deriving DecidableEq, Repr

def Halt.isRejection : Halt → Bool
  | .rejected _ => true
  | _ => false

/-- The answer to a step that succeeded. -/
inductive Answer where
  | literal (text : String)
  | pattern (found : Pattern.Match)
  /-- The terminal value of the rule that was asked for. -/
  | rule (value : Value)

namespace Answer

def value : Answer → Value
  | .literal text => .string text
  | .pattern found => found.text
  | .rule value => value

/-- Whether the empty text is what matched. -/
def isEmptyLiteral : Answer → Bool
  | .literal text => text.isEmpty
  | _ => false

end Answer

abbrev Reply := Except Halt Answer

/-- What a body comes to: the terminal value of its rule or the reason why there
is none. -/
abbrev Outcome := Except Halt Value

/-- A computation with a result in `α` over a session and a memory in `M`. -/
inductive Body (M α : Type) where
  | done (a : α)
  | request (node : Node) (next : Reply → Body M α)
  | load (next : M → Body M α)
  | store (memory : M) (next : Body M α)
  /-- The computation has used up a bound on its steps and has no result. -/
  | stuck

/-- The body of each rule, by the rule's identity. -/
abbrev Grammar (M : Type) := Nat → Body M Outcome

/-- A session in states `σ`: it answers a request and moves on, or has no answer
within the bounds it was given. -/
abbrev Session (σ M : Type) := Node → σ → M → Option (Reply × σ × M)

namespace Body

variable {M α β σ : Type}

protected def bind : Body M α → (α → Body M β) → Body M β
  | .done a, f => f a
  | .request node next, f => .request node fun reply => (next reply).bind f
  | .load next, f => .load fun memory => (next memory).bind f
  | .store memory next, f => .store memory (next.bind f)
  | .stuck, _ => .stuck

instance : Monad (Body M) where
  pure := .done
  bind := .bind

def run (session : Session σ M) : Body M α → σ → M → Option (α × σ × M)
  | .done a, state, memory => some (a, state, memory)
  | .request node next, state, memory =>
      match session node state memory with
      | none => none
      | some (reply, state, memory) => (next reply).run session state memory
  | .load next, state, memory => (next memory).run session state memory
  | .store memory next, state, _ => next.run session state memory
  | .stuck, _, _ => none

/-- Whether the body acts through its session alone. -/
def SessionOnly : Body M α → Prop
  | .done _ => True
  | .request _ next => ∀ reply, (next reply).SessionOnly
  | .load _ => False
  | .store _ _ => False
  | .stuck => True

def ask (node : Node) : Body M Reply := .request node .done

/-- Asks for a text. The answer is the text that matched, or whatever else
matched as text. -/
def literal (text : String) : Body M (Except Halt String) := do
  match ← ask (.literal text) with
  | .ok (.literal found) => return .ok found
  | .ok found => return .ok found.value.text
  | .error halt => return .error halt

/-- Asks for a pattern. An answer that is no match of a pattern counts as
none. -/
def pattern (p : Pattern) : Body M (Except Halt Pattern.Match) := do
  match ← ask (.pattern p) with
  | .ok (.pattern found) => return .ok found
  | .ok _ => return .error .mismatch
  | .error halt => return .error halt

def rule (r : Rule) : Body M (Except Halt Value) := do
  match ← ask (.rule r) with
  | .ok found => return .ok found.value
  | .error halt => return .error halt

def oneOf (nodes : List Node) : Body M Reply := ask (.choice nodes)

end Body

end TwoWay
