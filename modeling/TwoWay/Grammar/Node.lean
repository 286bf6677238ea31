import TwoWay.Pattern
import TwoWay.Text.Quoted

/-!
What a step of a grammar may ask for: a text, a pattern, another rule, or an
ordered choice of such things.
-/

namespace TwoWay

/-- A named rule. The body that it runs is found by its identity, and rules are
equal when their identities are, whatever their names. -/
structure Rule where
  id : Nat
  name : String

instance : BEq Rule := ⟨fun a b => a.id == b.id⟩

def Rule.tagged (r : Rule) : String := "Rule(" ++ Text.quoted r.name ++ ")"

/-- One alternative of a step. -/
inductive Candidate where
  /-- The input must begin with the text. -/
  | literal (text : String)
  | pattern (p : Pattern)
  | rule (r : Rule)

inductive Node where
  | single (c : Candidate)
  /-- The members are tried in order and the first to succeed is taken. -/
  | choice (members : List Node)

namespace Candidate

def text : Candidate → String
  | .literal s => Text.quoted s
  | .pattern p => p.text
  | .rule r => "<" ++ r.name ++ ">"

protected def beq : Candidate → Candidate → Bool
  | .literal a, .literal b => a == b
  | .pattern a, .pattern b => a == b
  | .rule a, .rule b => a == b
  | _, _ => false

instance : BEq Candidate := ⟨Candidate.beq⟩

end Candidate

namespace Node

@[match_pattern] def literal (text : String) : Node := .single (.literal text)

@[match_pattern] def pattern (p : Pattern) : Node := .single (.pattern p)

@[match_pattern] def rule (r : Rule) : Node := .single (.rule r)

/-- The node that matches where `p` does and takes nothing. -/
def ahead (p : Pattern) : Node := .pattern p.asZeroWidth

/-- The alternatives of a node in order, choices within choices laid out
flat. -/
def candidates : Node → List Candidate
  | .single c => [c]
  | .choice members => ofMembers members
where
  ofMembers : List Node → List Candidate
    | [] => []
    | member :: rest => member.candidates ++ ofMembers rest

theorem candidates_ofMembers_append (first second : List Node) :
    candidates.ofMembers (first ++ second) =
      candidates.ofMembers first ++ candidates.ofMembers second := by
  induction first with
  | nil => rfl
  | cons member rest ih => simp [candidates.ofMembers, ih]

theorem candidates_or_empty (item : Node) :
    (choice [item, literal ""]).candidates = item.candidates ++ [.literal ""] := by
  simp [candidates, candidates.ofMembers]

theorem candidates_choice_or_empty (items : List Node) :
    (choice (items ++ [literal ""])).candidates =
      (choice items).candidates ++ [.literal ""] := by
  simp [candidates, candidates_ofMembers_append, candidates.ofMembers]

def literal? : Node → Option String
  | .literal text => some text
  | _ => none

def text : Node → String
  | .single c => c.text
  | .choice members => "[" ++ " | ".intercalate (texts members) ++ "]"
where
  texts : List Node → List String
    | [] => []
    | member :: rest => member.text :: texts rest

protected def beq : Node → Node → Bool
  | .single a, .single b => a == b
  | .choice as, .choice bs => beqMembers as bs
  | _, _ => false
where
  beqMembers : List Node → List Node → Bool
    | [], [] => true
    | a :: as, b :: bs => Node.beq a b && beqMembers as bs
    | _, _ => false

instance : BEq Node := ⟨Node.beq⟩

end Node

end TwoWay
