import TwoWay.Regex.Look

/-!
Regular expressions ready for matching. All flags have been worked into the
parts, and parts are put together by functions that keep a simple form: no
repetition of the empty text, no sequence inside a sequence, no alternation
inside an alternation, and what all branches of an alternation begin with taken
out in front of it.

Taking a common beginning out changes which match is preferred: the branches
are then tried for one way of matching the beginning before the next way is.
-/

namespace TwoWay.Regex

inductive Expr where
  | empty
  | chars (set : CharSet)
  | look (look : Look)
  | repeats (min : Nat) (max : Option Nat) (greedy : Bool) (body : Expr)
  | group (index : Nat) (body : Expr)
  | seq (first second : Expr)
  | alt (first second : Expr)
  deriving DecidableEq

namespace Expr

/-- Whether the empty text is the only one that can match. -/
def isVoid : Expr → Bool
  | .empty => true
  | .chars _ => false
  | .look _ => true
  | .repeats _ _ _ body => body.isVoid
  | .group _ body => body.isVoid
  | .seq a b => a.isVoid && b.isVoid
  | .alt a b => a.isVoid && b.isVoid

/-- Whether every match takes at least one character. -/
def consumes : Expr → Bool
  | .empty => false
  | .chars _ => true
  | .look _ => false
  | .repeats min _ _ body => 0 < min && body.consumes
  | .group _ body => body.consumes
  | .seq a b => a.consumes || b.consumes
  | .alt a b => a.consumes && b.consumes

/-- Whether every match must pass `l` before it takes a character. -/
def opensWith (l : Look) : Expr → Bool
  | .empty => false
  | .chars _ => false
  | .look l' => l' = l
  | .repeats min _ _ body => 0 < min && body.opensWith l
  | .group _ body => body.opensWith l
  | .seq a b => a.opensWith l || (a.isVoid && b.opensWith l)
  | .alt a b => a.opensWith l && b.opensWith l

def parts : Expr → List Expr
  | .empty => []
  | .seq a b => a.parts ++ b.parts
  | e => [e]

def ofParts : List Expr → Expr
  | [] => .empty
  | [e] => e
  | e :: es => .seq e (ofParts es)

def concat (es : List Expr) : Expr := ofParts (es.flatMap parts)

def branches : Expr → List Expr
  | .alt a b => a.branches ++ b.branches
  | e => [e]

def ofBranches : List Expr → Expr
  | [] => .chars .empty
  | [e] => e
  | e :: es => .alt e (ofBranches es)

def charSet? : Expr → Option CharSet
  | .chars s => some s
  | _ => none

def commonStart : List Expr → List Expr → List Expr
  | a :: as, b :: bs => if a = b then a :: commonStart as bs else []
  | _, _ => []

/-- What several sequences begin with alike. A single part is no sequence, and
where there is one there is no common start. -/
def sharedStart (sequences : List (List Expr)) : List Expr :=
  match sequences with
  | first :: second :: rest =>
      if sequences.all fun s => 2 ≤ s.length then
        (second :: rest).foldl commonStart first
      else []
  | _ => []

/-- The alternation of some branches, the earlier ones preferred. Branches of
one character each make a set. `fuel` bounds how often a common start is taken
out. -/
def alternationWithin : (fuel : Nat) → List Expr → Expr
  | 0, es => ofBranches (es.flatMap branches)
  | fuel + 1, es =>
      let flat := es.flatMap branches
      match flat with
      | [] => ofBranches []
      | [e] => e
      | _ =>
        match flat.mapM charSet? with
        | some sets => .chars (sets.foldl CharSet.union .empty)
        | none =>
            let sequences := flat.map parts
            let start := sharedStart sequences
            if start.isEmpty then ofBranches flat
            else
              let ends := sequences.map fun s => ofParts (s.drop start.length)
              concat (start ++ [alternationWithin fuel ends])

def size : Expr → Nat
  | .repeats _ _ _ body => body.size + 1
  | .group _ body => body.size + 1
  | .seq a b => a.size + b.size + 1
  | .alt a b => a.size + b.size + 1
  | _ => 1

def alternation (es : List Expr) : Expr :=
  alternationWithin (es.foldl (fun n e => n + e.size) 1) es

/-- The repetition of an expression. What matches the empty text alone is
repeated once at most, and what is repeated exactly once stands for itself. -/
def repetition (min : Nat) (max : Option Nat) (greedy : Bool) (body : Expr) : Expr :=
  let (min, max) :=
    if body.isVoid then (Nat.min min 1, some ((max.map (Nat.min 1)).getD 1)) else (min, max)
  match min, max with
  | 0, some 0 => .empty
  | 1, some 1 => body
  | min, max => .repeats min max greedy body

end Expr

end TwoWay.Regex
