import TwoWay.Regex.ClassReader

/-!
Reading a whole regular expression. Branches, groups and repetitions nest; a
text is refused when a parenthesis, bracket or brace is left open, when a
repetition has nothing to repeat, or when the parts nest too deep.
-/

namespace TwoWay.Regex.Reader

def greedy : Reader Bool := return !(← accept ['?'])

/-- The last part of a branch, for a repetition to take, and the parts before
it; `parts` has the latest first. Flags cannot be repeated. -/
def repeatable? : List Tree → Option (Tree × List Tree)
  | [] => none
  | .empty :: _ => none
  | .flags _ :: _ => none
  | part :: before => some (part, before)

/-- The bounds of a counted repetition, from its opening brace to its closing
one. -/
def bounds : Reader (Nat × Option Nat) := do
  bumpSpace
  let low ← count
  if (← char) = ',' then
    bumpSpace
    if (← char) = '\x7d' then
      bump
      return (low, none)
    else
      let high ← count
      expect '\x7d'
      if low ≤ high then return (low, some high) else failure
  else
    expect '\x7d'
    return (low, some low)

def repetition (part : Tree) : Reader Tree := do
  match ← char with
  | '?' => do
      bump
      return .repetition 0 (some 1) (← greedy) part
  | '*' => do
      bump
      return .repetition 0 none (← greedy) part
  | '+' => do
      bump
      return .repetition 1 none (← greedy) part
  | _ => do
      let (low, high) ← bounds
      skipSpace
      return .repetition low high (← greedy) part

def atom : Reader Tree := do
  match ← char with
  | '\\' => escape
  | '.' => do
      bump
      return .dot
  | '^' => do
      bump
      return .assertion .startLine
  | '$' => do
      bump
      return .assertion .endLine
  | c => do
      bump
      return .literal ⟨c, false⟩

def spacedAfter (change : FlagChange) (spaced : Bool) : Bool :=
  (change.lookup .ignoreSpace).getD spaced

def setSpaced (spaced : Bool) : Reader Unit := modify ({ · with spaced })

/-- Everything up to the end of the text or of the enclosing group. `branches`
holds the finished branches and `parts` the parts of the current one, the
latest first. `fuel` bounds the number of parts. -/
def alternation : (fuel : Nat) → (branches parts : List Tree) → Reader Tree
  | 0, _, _ => failure
  | fuel + 1, branches, parts => do
      skipSpace
      let branch := Tree.ofParts parts.reverse
      match ← peek with
      | none => return Tree.ofBranches (branch :: branches).reverse
      | some ')' => return Tree.ofBranches (branch :: branches).reverse
      | some '|' => do
          bump
          alternation fuel (branch :: branches) []
      | some '(' => do
          let spaced := (← get).spaced
          match ← groupHead with
          | .inl change => do
              setSpaced (spacedAfter change spaced)
              alternation fuel branches (.flags change :: parts)
          | .inr kind => do
              match kind with
              | .plain change => setSpaced (spacedAfter change spaced)
              | .capturing _ => pure ()
              let body ← alternation fuel [] []
              expect ')'
              setSpaced spaced
              alternation fuel branches (.group kind body :: parts)
      | some '[' => do
          match ← bracketed fuel with
          | .bracketed negated body =>
              alternation fuel branches (.bracketed negated body :: parts)
          | _ => failure
      | some c =>
          if c = '?' || c = '*' || c = '+' || c = '\x7b' then
            match repeatable? parts with
            | none => failure
            | some (part, before) => do
                let repeated ← repetition part
                alternation fuel branches (repeated :: before)
          else do
            let part ← atom
            alternation fuel branches (part :: parts)

/-- How deep the parts of a regular expression may nest, if nothing else is said. -/
def nestingLimit : Nat := 250

/-- A tree with the number of its capturing groups, and those that have a name
in the order in which they open. -/
structure Reading where
  tree : Tree
  groups : Nat
  names : List (String × Nat)

/-- Reads the whole of a text, with blanks skipped and octal escapes allowed
from the start if so wished. -/
def readTree? (spaced octal : Bool) (text : List Char) (limit : Nat := nestingLimit) :
    Option Reading := do
  let (tree, final) ←
    (alternation (2 * text.length + 2) [] []).run ⟨text, spaced, octal, 0, []⟩
  if final.rest.isEmpty && tree.nesting ≤ limit then
    return ⟨tree, final.groups, final.names.reverse⟩
  else failure

end TwoWay.Regex.Reader
