import TwoWay.Proofs.Backward.Attempt
import TwoWay.Proofs.Forward.Attempt

/-!
The kinds of answers. A candidate that decides a request is answered in its own kind, over a
text as well as while a grammar is inverted: a text with that very text, a pattern with a
match, a rule with a value. So a body that asks for a text, for a pattern or for a rule gets
what it asked for or the halt of its session, and nothing else.
-/

namespace TwoWay

variable {M σ : Type}

def Candidate.Fits : Candidate → Answer → Prop
  | .literal text, answer => answer = .literal text
  | .pattern _, answer => ∃ found, answer = .pattern found
  | .rule _, answer => ∃ value, answer = .rule value

def Node.Fits (node : Node) (answer : Answer) : Prop := ∃ c ∈ node.candidates, c.Fits answer

theorem Node.fits_single {c : Candidate} {answer : Answer} :
    (Node.single c).Fits answer ↔ c.Fits answer := by
  simp [Node.Fits, Node.candidates]

theorem Node.fits_literal {text : String} {answer : Answer} :
    (Node.literal text).Fits answer ↔ answer = .literal text :=
  Node.fits_single

theorem Node.fits_pattern {p : Pattern} {answer : Answer} :
    (Node.pattern p).Fits answer ↔ ∃ found, answer = .pattern found :=
  Node.fits_single

theorem Node.fits_rule {r : Rule} {answer : Answer} :
    (Node.rule r).Fits answer ↔ ∃ value, answer = .rule value :=
  Node.fits_single

namespace Body

/-- Whether all answers of a session fit the node that was asked for. -/
def Fitting (session : Session σ M) : Prop :=
  ∀ ⦃node state memory answer state' memory'⦄,
    session node state memory = some (.ok answer, state', memory') → node.Fits answer

section Fitting

variable {session : Session σ M} {state state' : σ} {memory memory' : M}

/-- A body that makes one request, and takes the answer out of the one kind that it can have,
comes to what the session replied. -/
theorem Fitting.run_request {β : Type} (hfits : Fitting session) {node : Node}
    (kind : β → Answer) {next : Reply → Body M (Except Halt β)}
    (hkind : ∀ answer, node.Fits answer → ∃ b, answer = kind b)
    (hinjective : ∀ ⦃b b'⦄, kind b = kind b' → b = b')
    (hok : ∀ b, next (.ok (kind b)) = .done (.ok b))
    (herror : ∀ halt, next (.error halt) = .done (.error halt)) {result : Except Halt β} :
    (Body.request node next).run session state memory = some (result, state', memory') ↔
      session node state memory = some (result.map kind, state', memory') := by
  simp only [Body.run]
  cases hreply : session node state memory with
  | none => simp
  | some found =>
      obtain ⟨reply, state₁, memory₁⟩ := found
      cases reply with
      | error halt =>
          simp only [herror, Body.run]
          cases result <;> simp [Except.map]
      | ok answer =>
          obtain ⟨b, rfl⟩ := hkind answer (hfits hreply)
          simp only [hok, Body.run]
          cases result with
          | error halt => simp [Except.map]
          | ok b' =>
              have hsame : kind b = kind b' ↔ b = b' := ⟨fun h => hinjective h, congrArg kind⟩
              simp [Except.map, hsame]

variable (hfits : Fitting session)

include hfits

theorem Fitting.run_literal {text : String} {result : Except Halt String} :
    (Body.literal text).run session state memory = some (result, state', memory') ↔
      session (.literal text) state memory = some (result.map .literal, state', memory') :=
  hfits.run_request .literal (fun _ h => ⟨text, Node.fits_literal.1 h⟩)
    (fun _ _ => Answer.literal.inj) (fun _ => rfl) (fun _ => rfl)

theorem Fitting.run_pattern {p : Pattern} {result : Except Halt Pattern.Match} :
    (Body.pattern p).run session state memory = some (result, state', memory') ↔
      session (.pattern p) state memory = some (result.map .pattern, state', memory') :=
  hfits.run_request .pattern (fun _ => Node.fits_pattern.1) (fun _ _ => Answer.pattern.inj)
    (fun _ => rfl) (fun _ => rfl)

theorem Fitting.run_rule {r : Rule} {result : Except Halt Value} :
    (Body.rule r).run session state memory = some (result, state', memory') ↔
      session (.rule r) state memory = some (result.map .rule, state', memory') :=
  hfits.run_request .rule (fun _ => Node.fits_rule.1) (fun _ _ => Answer.rule.inj)
    (fun _ => rfl) (fun _ => rfl)

end Fitting

/-- Whether bodies that ask a session for a text, for a pattern or for a rule come to what the
session gives them, which is of the right kind: the very text, a match or a value. -/
structure AnsweredInKind (session : Session σ M) : Prop where
  literal : ∀ {text result state memory state' memory'},
    (Body.literal text).run session state memory = some (result, state', memory') ↔
      session (.literal text) state memory = some (result.map .literal, state', memory') ∧
        ∀ found, result = .ok found → found = text
  pattern : ∀ {p result state memory state' memory'},
    (Body.pattern p).run session state memory = some (result, state', memory') ↔
      session (.pattern p) state memory = some (result.map .pattern, state', memory')
  rule : ∀ {r result state memory state' memory'},
    (Body.rule r).run session state memory = some (result, state', memory') ↔
      session (.rule r) state memory = some (result.map .rule, state', memory')

theorem Fitting.answeredInKind {session : Session σ M} (hfits : Fitting session) :
    AnsweredInKind session where
  literal := by
    intro text result state memory state' memory'
    rw [hfits.run_literal]
    refine ⟨fun hreply => ⟨hreply, fun found hfound => ?_⟩, And.left⟩
    subst hfound
    exact Answer.literal.inj (Node.fits_literal.1 (hfits hreply))
  pattern := hfits.run_pattern
  rule := hfits.run_rule

end Body

namespace Forward

theorem fits_of_attempt {run : Runner M} {input : List Char} {c : Candidate} {memory memory' : M}
    {answer : Answer} {remaining : List Char}
    (hc : attempt run input c memory = some (.ok (answer, remaining), memory')) :
    c.Fits answer := by
  rcases attempt_ok_cases hc with ⟨_, rfl, rfl, _⟩ | ⟨_, found, _, rfl, rfl, _⟩ |
    ⟨_, value, rfl, rfl, _⟩
  · rfl
  · exact ⟨found, rfl⟩
  · exact ⟨value, rfl⟩

theorem decided_of_session {run : Runner M} {node : Node} {frame frame' : Frame}
    {memory memory' : M} {answer : Answer}
    (hreply : session run node frame memory = some (.ok answer, frame', memory')) :
    ∃ pre c post failures memory₁ remaining, node.candidates = pre ++ c :: post ∧
      Declined run frame.remaining pre memory failures memory₁ ∧
      attempt run frame.remaining c memory₁ = some (.ok (answer, remaining), memory') ∧
      c.Fits answer := by
  rcases session_cases hreply with ⟨_, herror, _⟩ |
    ⟨_, pre, c, post, failures, memory₁, _, remaining, hnode, hpre, hc, hanswer, _⟩ |
    ⟨_, _, _, herror, _⟩
  · cases herror
  · obtain rfl := Except.ok.inj hanswer
    exact ⟨pre, c, post, failures, memory₁, remaining, hnode, hpre, hc, fits_of_attempt hc⟩
  · cases herror

theorem session_fitting (run : Runner M) : Body.Fitting (session run) := by
  intro node frame memory answer frame' memory' hreply
  obtain ⟨pre, c, post, _, _, _, hnode, _, _, hfits⟩ := decided_of_session hreply
  exact ⟨c, by simp [hnode], hfits⟩

end Forward

namespace Backward

theorem fits_of_attempt {run : Runner M} {c : Candidate} {draft draft' : Draft}
    {memory memory' : M} {answer : Answer}
    (hc : attempt run c draft memory = some (some (.ok answer), draft', memory')) :
    c.Fits answer := by
  rcases answered_cases hc with ⟨_, rfl, rfl, _⟩ | ⟨_, found, rfl, rfl, _⟩ | ⟨_, rfl, rfl, _⟩
  · rfl
  · exact ⟨found, rfl⟩
  · exact ⟨.nil, rfl⟩

theorem decided_of_session {run : Runner M} {node : Node} {frame frame' : Frame}
    {memory memory' : M} {answer : Answer}
    (hreply : session run node frame memory = some (.ok answer, frame', memory')) :
    ∃ pre c post draft₁ memory₁ draft₂, node.candidates = pre ++ c :: post ∧
      Passed run pre frame.draft memory draft₁ memory₁ ∧
      attempt run c draft₁ memory₁ = some (some (.ok answer), draft₂, memory') ∧
      c.Fits answer := by
  rcases session_cases hreply with ⟨_, herror, _⟩ | ⟨_, _, herror, _⟩ |
    ⟨_, _, pre, c, post, draft₁, memory₁, draft₂, hnode, hpre, hc, _⟩ | ⟨_, _, _, _, herror, _⟩
  · cases herror
  · cases herror
  · exact ⟨pre, c, post, draft₁, memory₁, draft₂, hnode, hpre, hc, fits_of_attempt hc⟩
  · cases herror

theorem session_fitting (run : Runner M) : Body.Fitting (session run) := by
  intro node frame memory answer frame' memory' hreply
  obtain ⟨pre, c, post, _, _, _, hnode, _, _, hfits⟩ := decided_of_session hreply
  exact ⟨c, by simp [hnode], hfits⟩

end Backward

end TwoWay
