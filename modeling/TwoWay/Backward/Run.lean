import TwoWay.Backward.Draft
import TwoWay.Grammar.Body

/-!
Running a grammar backwards, to find a text for a needle.

A literal puts its text out. A pattern reserves a component and answers with the
handle of its slot; one that takes no input answers with the empty match and
puts nothing out. A rule that ends without a value has only put text out. One
that ends with a value has either settled the draft, which ends the whole
inversion, or failed, and what a rule put out before it failed is taken back.

A grammar may call itself without end, so runs are bounded by the depth to
which rules may nest; a run that meets the bound has no result.
-/

namespace TwoWay.Backward

/-- How the inversion of a rule ended. -/
inductive Ending where
  /-- The needle is met, by this rule or by one below it. -/
  | complete
  /-- The rule has put its text out and has no value. -/
  | unfinished
  | failed
  deriving DecidableEq, Repr

/-- What the session of one rule goes by: the draft, which all frames share, and
whether a request of this frame has failed. -/
structure Frame where
  draft : Draft
  halted : Bool

variable {M : Type}

abbrev Runner (M : Type) := Rule → Draft → M → Option (Ending × Draft × M)

/-- Tries the candidates of a node in order. Only a rule can fail. -/
def tryCandidates (run : Runner M) :
    List Candidate → Draft → M → Option (Reply × Frame × M)
  | [], draft, memory => some (.error .mismatch, ⟨draft, true⟩, memory)
  | .literal text :: _, draft, memory =>
      some (.ok (.literal text), ⟨draft.push text, false⟩, memory)
  | .pattern p :: _, draft, memory =>
      if p.zeroWidth then some (.ok (.pattern .empty), ⟨draft, false⟩, memory)
      else
        let (handle, draft) := draft.reserve p
        some (.ok (.pattern (.placeholder handle)), ⟨draft, false⟩, memory)
  | .rule r :: rest, draft, memory =>
      match run r draft memory with
      | none => none
      | some (.complete, draft, memory) => some (.error .resolved, ⟨draft, false⟩, memory)
      | some (.unfinished, draft, memory) => some (.ok (.rule .nil), ⟨draft, false⟩, memory)
      | some (.failed, draft, memory) => tryCandidates run rest draft memory

def session (run : Runner M) : Session Frame M := fun node frame memory =>
  if frame.draft.resolved then some (.error .resolved, frame, memory)
  else if frame.halted then some (.error .mismatch, frame, memory)
  else tryCandidates run node.candidates frame.draft memory

/-- How a rule ends that began with the draft `mark`, when its body came to
`outcome` and left `frame`. Once the needle is met nothing else counts; after
that a failed request decides. -/
def Frame.finish (needle : Needle) (mark : Draft) (frame : Frame) (outcome : Outcome) :
    Ending × Draft :=
  if frame.draft.resolved then (.complete, frame.draft)
  else if frame.halted then (.failed, frame.draft.rollback mark)
  else
    match outcome with
    | .error _ => (.failed, frame.draft.rollback mark)
    | .ok .nil => (.unfinished, frame.draft)
    | .ok value =>
        match frame.draft.settle? needle value with
        | some draft => (.complete, draft)
        | none => (.failed, frame.draft.rollback mark)

/-- Inverts a rule from a draft, rules nesting to the given depth at most. -/
def synthesize (grammar : Grammar M) (needle : Needle) : (depth : Nat) → Runner M
  | 0, _, _, _ => none
  | depth + 1, r, draft, memory =>
      match (grammar r.id).run (session (synthesize grammar needle depth)) ⟨draft, false⟩
          memory with
      | none => none
      | some (outcome, frame, memory) =>
          let (ending, draft) := frame.finish needle draft outcome
          some (ending, draft, memory)

inductive Inversion where
  /-- The needle is met, and the components joined are a text for it. -/
  | complete (components : List String)
  /-- The rule ended without a value of its own. -/
  | unfinished (components : List String)
  | none
  deriving DecidableEq, Repr

namespace Inversion

def ofEnding : Ending → Draft → Inversion
  | .complete, draft => .complete draft.components
  | .unfinished, draft => .unfinished draft.components
  | .failed, _ => .none

def isComplete : Inversion → Bool
  | .complete _ => true
  | _ => false

def components? : Inversion → Option (List String)
  | .complete components | .unfinished components => some components
  | .none => Option.none

def text? : Inversion → Option String
  | .complete components => some (String.join components)
  | _ => Option.none

end Inversion

def invert (grammar : Grammar M) (depth : Nat) (needle : Needle) (r : Rule) (memory : M) :
    Option (Inversion × M) :=
  (synthesize grammar needle depth r .empty memory).map fun (ending, draft, memory) =>
    (.ofEnding ending draft, memory)

end TwoWay.Backward
