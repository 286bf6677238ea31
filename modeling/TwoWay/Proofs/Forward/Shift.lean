import TwoWay.Proofs.Forward.Attempt

/-!
A frame over a text goes by what is left of the text. The number of requests answered before
is counted and told in failures, but nothing is decided by it: a session, and a run of any
body, does from a later frame what it does from an earlier one, with the steps counted on.
-/

namespace TwoWay.Forward

variable {M α : Type}

/-- The failure as it reads when so many requests were answered before. -/
def Failure.shift (n : Nat) : Failure → Failure
  | .mk step cause nested => .mk (step + n) cause nested

def Frame.shift (n : Nat) (frame : Frame) : Frame :=
  ⟨frame.remaining, frame.step + n, frame.failure.map (Failure.shift n)⟩

def Result.shift (n : Nat) (result : Result) : Result :=
  ⟨result.remaining, result.outcome.mapError (Failure.shift n)⟩

@[simp] theorem Result.shift_ok (n : Nat) (remaining : List Char) (value : Value) :
    Result.shift n ⟨remaining, .ok value⟩ = ⟨remaining, .ok value⟩ := rfl

@[simp] theorem Result.shift_error (n : Nat) (remaining : List Char) (failure : Failure) :
    Result.shift n ⟨remaining, .error failure⟩ = ⟨remaining, .error (failure.shift n)⟩ := rfl

@[simp] theorem Frame.shift_remaining (n : Nat) (frame : Frame) :
    (frame.shift n).remaining = frame.remaining := rfl

@[simp] theorem Frame.shift_failure (n : Nat) (frame : Frame) :
    (frame.shift n).failure = frame.failure.map (Failure.shift n) := rfl

theorem Frame.advance_shift (n : Nat) (frame : Frame) (remaining : List Char) :
    (frame.shift n).advance remaining = (frame.advance remaining).shift n := by
  simp [Frame.shift, Frame.advance, Nat.add_right_comm]

@[simp] theorem Frame.shift_zero (frame : Frame) : frame.shift 0 = frame := by
  obtain ⟨remaining, step, failure⟩ := frame
  cases failure with
  | none => rfl
  | some failure =>
      cases failure
      rfl

theorem Frame.start_shift (remaining : List Char) (step : Nat) :
    (Frame.start remaining).shift step = ⟨remaining, step, none⟩ := by
  simp [Frame.shift, Frame.start]

theorem Frame.finish_shift (n : Nat) (frame : Frame) (outcome : Outcome) :
    (frame.shift n).finish outcome = (frame.finish outcome).shift n := by
  obtain ⟨remaining, step, failure⟩ := frame
  cases failure with
  | some failure => rfl
  | none =>
      cases outcome with
      | ok value => rfl
      | error halt => cases halt <;> rfl

theorem map_finish_shift (n : Nat) (ended : Option (Outcome × Frame × M)) :
    (ended.map fun (outcome, frame, memory) => (outcome, frame.shift n, memory)).map
        (fun (outcome, frame, memory) => (frame.finish outcome, memory)) =
      (ended.map fun (outcome, frame, memory) => (frame.finish outcome, memory)).map
        (Prod.map (Result.shift n) id) := by
  cases ended with
  | none => rfl
  | some ended =>
      obtain ⟨outcome, frame, memory⟩ := ended
      exact congrArg (fun result => some (result, memory)) (Frame.finish_shift n frame outcome)

section Session

variable {run : Runner M} {n : Nat} {frame : Frame} {memory : M}

theorem tryCandidates_shift {node : Node} (candidates : List Candidate) (nested : List Failure) :
    tryCandidates run node (frame.shift n) candidates nested memory =
      (tryCandidates run node frame candidates nested memory).map fun (reply, frame, memory) =>
        (reply, frame.shift n, memory) := by
  induction candidates generalizing nested memory with
  | nil => rfl
  | cons c rest ih =>
      rw [tryCandidates_cons, tryCandidates_cons, Frame.shift_remaining]
      cases attempt run frame.remaining c memory with
      | none => rfl
      | some found =>
          obtain ⟨result, memory₁⟩ := found
          cases result with
          | ok decided => simp [Frame.advance_shift]
          | error failure => exact ih _

theorem session_shift (node : Node) :
    session run node (frame.shift n) memory =
      (session run node frame memory).map fun (reply, frame, memory) =>
        (reply, frame.shift n, memory) := by
  unfold session
  rw [Frame.shift_failure, Option.isSome_map]
  split
  · rfl
  · exact tryCandidates_shift _ _

/-- By induction on the body: each of its requests gets the same reply. -/
theorem run_shift (body : Body M α) :
    body.run (session run) (frame.shift n) memory =
      (body.run (session run) frame memory).map fun (a, frame, memory) =>
        (a, frame.shift n, memory) := by
  induction body generalizing frame memory with
  | done a => rfl
  | request node next ih =>
      simp only [Body.run, session_shift]
      cases session run node frame memory with
      | none => rfl
      | some found => exact ih found.1
  | load next ih => exact ih memory
  | store stored next ih => exact ih
  | stuck => rfl

end Session

end TwoWay.Forward
