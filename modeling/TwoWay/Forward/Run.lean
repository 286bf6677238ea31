import TwoWay.Grammar.Body
import TwoWay.Forward.Failure

/-!
Running a grammar forwards, over a text.

Each run of a rule has a frame: the text it has left, the requests it has had
answered, and the failure of the first one that was not. A request is an
ordered choice. Texts and patterns must match at the head of what is left; a
rule is run in a frame of its own, and what it took is taken. Once a request
has failed, all later ones of that frame fail too, and so does the run.

A grammar may call itself without end, so runs are bounded by the depth to
which rules may nest; a run that meets the bound has no result.
-/

namespace TwoWay.Forward

structure Frame where
  remaining : List Char
  /-- How many requests have been answered. -/
  step : Nat
  failure : Option Failure

namespace Frame

def start (input : List Char) : Frame := ⟨input, 0, none⟩

def advance (frame : Frame) (remaining : List Char) : Frame :=
  { frame with remaining, step := frame.step + 1 }

end Frame

/-- What a run of a rule comes to: the text it left, and its value or its
failure. -/
structure Result where
  remaining : List Char
  outcome : Except Failure Value

namespace Result

def isSuccess (r : Result) : Bool := r.outcome.isOk

def value? (r : Result) : Option Value := r.outcome.toOption

def failure? (r : Result) : Option Failure :=
  match r.outcome with
  | .ok _ => none
  | .error f => some f

end Result

/-- What a body is held to have said when it stopped for a reason that does not
come from its own session. -/
def strayHalt : String := "computation halted outside its parse session"

/-- The result of a run whose body came to `outcome`. A recorded failure decides
it, whatever the body did afterwards. -/
def Frame.finish (frame : Frame) (outcome : Outcome) : Result :=
  match frame.failure with
  | some failure => ⟨frame.remaining, .error failure⟩
  | none =>
      match outcome with
      | .ok value => ⟨frame.remaining, .ok value⟩
      | .error (.rejected message) =>
          ⟨frame.remaining, .error (.mk frame.step (.rejected message) [])⟩
      | .error _ => ⟨frame.remaining, .error (.mk frame.step (.rejected strayHalt) [])⟩

variable {M : Type}

abbrev Runner (M : Type) := Rule → List Char → M → Option (Result × M)

/-- Tries the candidates of `node` in order. `nested` has the failures of the
rules tried before, the latest first. -/
def tryCandidates (run : Runner M) (node : Node) (frame : Frame) :
    List Candidate → (nested : List Failure) → M → Option (Reply × Frame × M)
  | [], nested, memory =>
      some (.error .mismatch,
        { frame with failure := some (.mk frame.step (.unmatched node) nested.reverse) }, memory)
  | .literal text :: rest, nested, memory =>
      match Text.dropLiteral? text.toList frame.remaining with
      | some remaining => some (.ok (.literal text), frame.advance remaining, memory)
      | none => tryCandidates run node frame rest nested memory
  | .pattern p :: rest, nested, memory =>
      match p.matchFront? frame.remaining with
      | some (found, taken) =>
          some (.ok (.pattern found), frame.advance (frame.remaining.drop taken), memory)
      | none => tryCandidates run node frame rest nested memory
  | .rule r :: rest, nested, memory =>
      match run r frame.remaining memory with
      | none => none
      | some (result, memory) =>
          match result.outcome with
          | .ok value => some (.ok (.rule value), frame.advance result.remaining, memory)
          | .error failure => tryCandidates run node frame rest (failure :: nested) memory

def session (run : Runner M) : Session Frame M := fun node frame memory =>
  if frame.failure.isSome then some (.error .mismatch, frame, memory)
  else tryCandidates run node frame node.candidates [] memory

/-- Runs a rule on a text, rules nesting to the given depth at most. -/
def parse (grammar : Grammar M) : (depth : Nat) → Runner M
  | 0, _, _, _ => none
  | depth + 1, r, input, memory =>
      match (grammar r.id).run (session (parse grammar depth)) (Frame.start input) memory with
      | none => none
      | some (outcome, frame, memory) => some (frame.finish outcome, memory)

end TwoWay.Forward
