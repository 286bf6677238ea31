import TwoWay.Forward.Run

/-!
A failed parse as a report on the text that was parsed: where it stopped, what
was expected there, and the trace of what was tried.
-/

namespace TwoWay.Forward

/-- A remark on a part of the text, in bytes. -/
structure Label where
  text : String
  offset : Nat
  length : Nat
  deriving DecidableEq, Repr

structure Diagnostic where
  /-- The name of the text in the report. -/
  name : String
  source : String
  offset : Nat
  failure : Failure

namespace Diagnostic

def message (d : Diagnostic) : String := d.failure.text

def code : String := "revparse::parse::failure"

/-- The trace, where there is more to it than the failure itself. -/
def help? (d : Diagnostic) : Option String :=
  if d.failure.nested.isEmpty then none else some d.failure.trace

def labels (d : Diagnostic) : List Label := [⟨"parsing stopped here", d.offset, 0⟩]

end Diagnostic

/-- The value of a parse, or a report of its failure on `source`, which should
be the text that was parsed. -/
def Result.diagnose (r : Result) (name source : String) : Except Diagnostic Value :=
  match r.outcome with
  | .ok value => .ok value
  | .error failure =>
      .error ⟨name, source, Text.byteLength source.toList - Text.byteLength r.remaining, failure⟩

end TwoWay.Forward
