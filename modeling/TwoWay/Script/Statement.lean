import TwoWay.Script.Expr

/-!
Scripts: the bodies of rules as lists of statements. A script asks its session,
keeps answers under names of its own, shares values with other scripts through
globals, and branches, repeats, recovers and ends. Every request that a script
makes is noted when it is answered.
-/

namespace TwoWay.Script

/-- A request to the session, in one of the ways a session can be asked. -/
inductive Ask where
  | node (n : Node)
  | literal (text : String)
  | pattern (p : Pattern)
  | rule (r : Rule)
  | oneOf (nodes : List Node)

def Ask.target : Ask → Node
  | .node n => n
  | .literal text => .literal text
  | .pattern p => .pattern p
  | .rule r => .rule r
  | .oneOf nodes => .choice nodes

def Ask.perform {M : Type} : Ask → Body M Reply
  | .node n => Body.ask n
  | .literal text => do return (← Body.literal text).map .literal
  | .pattern p => do return (← Body.pattern p).map .pattern
  | .rule r => do return (← Body.rule r).map .rule
  | .oneOf nodes => Body.oneOf nodes

/-- A statement. Where it has a name, its result is kept under it. -/
inductive Statement where
  | ask (request : Ask) (name : Option String)
  /-- Runs the body of a rule on the session of this one. -/
  | inline (r : Rule) (name : Option String)
  | assign (name : String) (e : Expr)
  | assignGlobal (name : String) (e : Expr)
  | branch (condition : Expr) (yes no : List Statement)
  | loop (body : List Statement)
  | breakIf (condition : Expr)
  | finish (e : Expr)
  | reject (e : Expr)
  /-- Runs a block and keeps the text of the halt that ended it, if one did. -/
  | attempt (body : List Statement) (name : Option String)
  /-- Stops with a halt that some other session gave. -/
  | halt (h : Halt)

/-- A note of a request: the rule whose script made it, what was asked and what
came back. -/
structure Note where
  rule : String
  node : Node
  reply : Reply

/-- What the scripts of a run share. -/
structure Memory where
  globals : Globals
  /-- The requests in the order in which they were answered, the latest
  first. -/
  notes : List Note

def Memory.start : Memory := ⟨[], []⟩

inductive Flow where
  | next
  | broken
  | finished (v : Value)
  | halted (h : Halt)

def haltText : Halt → String
  | .mismatch => "mismatch"
  | .resolved => "resolved"
  | .rejected message => "rejected: " ++ message

def keep (name : Option String) (found : Answer) (env : Env) : Env :=
  match name with
  | some name => (name, found) :: env
  | none => env

def withValue (e : Expr) (env : Env) (next : Value → Body Memory (Flow × Env)) :
    Body Memory (Flow × Env) :=
  .load fun memory =>
    match e.eval env memory.globals with
    | .ok v => next v
    | .error message => .done (.halted (.rejected message), env)

def noted (owner : String) (request : Ask) : Body Memory Reply := do
  let reply ← request.perform
  .load fun memory =>
    .store { memory with notes := ⟨owner, request.target, reply⟩ :: memory.notes } (.done reply)

mutual

/-- Runs the statements of a block one after another. `inline` has the bodies
of rules, and `owner` is the name of the rule whose script this is. `fuel`
bounds the statements on the way. -/
def runBlock (inline : Rule → Body Memory Outcome) (owner : String) :
    (fuel : Nat) → List Statement → Env → Body Memory (Flow × Env)
  | 0, _, _ => .stuck
  | _ + 1, [], env => .done (.next, env)
  | fuel + 1, s :: rest, env => do
      let (flow, env) ← runStatement inline owner fuel s env
      match flow with
      | .next => runBlock inline owner fuel rest env
      | flow => return (flow, env)

def runStatement (inline : Rule → Body Memory Outcome) (owner : String) :
    (fuel : Nat) → Statement → Env → Body Memory (Flow × Env)
  | 0, _, _ => .stuck
  | fuel + 1, s, env =>
      match s with
      | .ask request name => do
          match ← noted owner request with
          | .ok found => return (.next, keep name found env)
          | .error halt => return (.halted halt, env)
      | .inline r name => do
          match ← inline r with
          | .ok v => return (.next, keep name (.rule v) env)
          | .error halt => return (.halted halt, env)
      | .assign name e => withValue e env fun v => .done (.next, (name, .rule v) :: env)
      | .assignGlobal name e =>
          withValue e env fun v =>
            .load fun memory =>
              .store { memory with globals := (name, v) :: memory.globals } (.done (.next, env))
      | .branch condition yes no =>
          withValue condition env fun v =>
            if isTrue v then runBlock inline owner fuel yes env
            else runBlock inline owner fuel no env
      | .loop body => do
          let (flow, env) ← runBlock inline owner fuel body env
          match flow with
          | .next => runStatement inline owner fuel (.loop body) env
          | .broken => return (.next, env)
          | flow => return (flow, env)
      | .breakIf condition =>
          withValue condition env fun v => .done (if isTrue v then .broken else .next, env)
      | .finish e => withValue e env fun v => .done (.finished v, env)
      | .reject e => withValue e env fun v => .done (.halted (.rejected v.text), env)
      | .attempt body name => do
          let (flow, env) ← runBlock inline owner fuel body env
          match flow with
          | .halted halt => return (.next, keep name (.rule (.string (haltText halt))) env)
          | flow => return (flow, keep name (.rule .nil) env)
      | .halt h => .done (.halted h, env)

end

/-- The body that a script stands for. A script that ends without a value comes
to nothing. -/
def body (inline : Rule → Body Memory Outcome) (owner : String) (fuel : Nat)
    (statements : List Statement) : Body Memory Outcome := do
  let (flow, _) ← runBlock inline owner fuel statements []
  match flow with
  | .finished v => return .ok v
  | .halted halt => return .error halt
  | _ => return .ok .nil

end TwoWay.Script
