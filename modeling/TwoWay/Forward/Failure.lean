import TwoWay.Grammar.Node

/-!
Why a parse failed, as a tree: the step that failed, and under it the failures
of the rules that were tried for that step. The trace of a failure has a line
for each failure of the tree, a parent before its children, indented by depth.
-/

namespace TwoWay.Forward

inductive Cause where
  /-- No alternative of the node matched. -/
  | unmatched (node : Node)
  /-- The grammar turned down what it had matched. -/
  | rejected (message : String)

def Cause.text : Cause → String
  | .unmatched node => "expected " ++ node.text
  | .rejected message => "rejected: " ++ message

/-- The failure of one run of a rule. -/
inductive Failure where
  /-- `step` counts the requests answered before the one that failed; `nested`
  holds the failures of the rules tried for it, in order. -/
  | mk (step : Nat) (cause : Cause) (nested : List Failure)

namespace Failure

def step : Failure → Nat
  | .mk step _ _ => step

def cause : Failure → Cause
  | .mk _ cause _ => cause

def nested : Failure → List Failure
  | .mk _ _ nested => nested

def text (f : Failure) : String := "step " ++ Nat.repr f.step ++ ": " ++ f.cause.text

/-- The failure and all below it, each with its depth, parents first. -/
def preorder (depth : Nat) : Failure → List (Nat × Failure)
  | .mk step cause nested => (depth, .mk step cause nested) :: preorderAll (depth + 1) nested
where
  preorderAll (depth : Nat) : List Failure → List (Nat × Failure)
    | [] => []
    | f :: rest => f.preorder depth ++ preorderAll depth rest

/-- One line per failure, indented by two blanks for each level. -/
def trace (f : Failure) : String := go 0 f
where
  go (depth : Nat) : Failure → String
    | .mk step cause nested =>
        String.ofList (List.replicate (2 * depth) ' ') ++
          (Failure.mk step cause nested).text ++ goAll (depth + 1) nested
  goAll (depth : Nat) : List Failure → String
    | [] => ""
    | f :: rest => "\n" ++ go depth f ++ goAll depth rest

/-- The failure reached by following the last nested one at each level. -/
def innermost : Failure → Failure
  | .mk step cause nested => lastOf (.mk step cause nested) nested
where
  lastOf (found : Failure) : List Failure → Failure
    | [] => found
    | f :: rest => lastOf f.innermost rest

end Failure

end TwoWay.Forward
