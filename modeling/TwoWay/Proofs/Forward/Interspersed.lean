import TwoWay.Proofs.Course
import TwoWay.Proofs.Forward.Shift

/-!
Requests that leave no trace. A request that is answered and takes nothing may be made between
those of a body without any of them being answered otherwise. The body that makes it goes on in a
frame that differs from the other's in its steps alone, and a frame goes by what is left of the
text.
-/

namespace TwoWay.Forward

open Body (Course Exchange)

variable {M α : Type}

/-- Whether a request for a node is answered in each frame in which no request has failed and this
text is left, always alike, and takes nothing. -/
def Unseen (run : Runner M) (node : Node) (remaining : List Char) : Prop :=
  ∃ answer, ∀ step memory, session run node ⟨remaining, step, none⟩ memory =
    some (.ok answer, ⟨remaining, step + 1, none⟩, memory)

/-- From a frame and a memory on, the second body makes the requests of the first and between them
others, each for a node that is `allowed` where this text is left, whose replies it passes over:
it goes on after them as the first body does. -/
inductive Interspersed (session : Session Frame M) (allowed : Node → List Char → Prop) :
    Body M α → Frame → M → Body M α → Prop where
  | done {a : α} {frame : Frame} {memory : M} :
      Interspersed session allowed (.done a) frame memory (.done a)
  | request {node : Node} {next next' : Reply → Body M α} {frame : Frame} {memory : M} :
      (∀ reply frame₁ memory₁, session node frame memory = some (reply, frame₁, memory₁) →
        Interspersed session allowed (next reply) frame₁ memory₁ (next' reply)) →
      Interspersed session allowed (.request node next) frame memory (.request node next')
  | load {next next' : M → Body M α} {frame : Frame} {memory : M} :
      Interspersed session allowed (next memory) frame memory (next' memory) →
      Interspersed session allowed (.load next) frame memory (.load next')
  | store {next next' : Body M α} {frame : Frame} {memory stored : M} :
      Interspersed session allowed next frame stored next' →
      Interspersed session allowed (.store stored next) frame memory (.store stored next')
  | stuck {frame : Frame} {memory : M} :
      Interspersed session allowed .stuck frame memory .stuck
  | added {node : Node} {body : Body M α} {next' : Reply → Body M α} {frame : Frame}
      {memory : M} :
      allowed node frame.remaining →
      (∀ reply frame₁ memory₁, session node frame memory = some (reply, frame₁, memory₁) →
        Interspersed session allowed body frame memory (next' reply)) →
      Interspersed session allowed body frame memory (.request node next')

theorem Interspersed.refl {session : Session Frame M} {allowed : Node → List Char → Prop}
    (body : Body M α) (frame : Frame) (memory : M) :
    Interspersed session allowed body frame memory body := by
  induction body generalizing frame memory with
  | done a => exact .done
  | request node next ih => exact .request fun reply frame₁ memory₁ _ => ih reply frame₁ memory₁
  | load next ih => exact .load (ih memory frame memory)
  | store stored next ih => exact .store (ih frame stored)
  | stuck => exact .stuck

def shiftExchange (n : Nat) (x : Exchange Frame M) : Exchange Frame M :=
  { x with before := x.before.shift n, after := x.after.shift n }

/-- The second list has the exchanges of the first, with the steps counted on, and between them
others that were allowed and have taken nothing. -/
inductive Spread (allowed : Node → List Char → Prop) :
    List (Exchange Frame M) → List (Exchange Frame M) → Prop where
  | nil : Spread allowed [] []
  | same {x : Exchange Frame M} {log log' : List (Exchange Frame M)} (n : Nat) :
      Spread allowed log log' → Spread allowed (x :: log) (shiftExchange n x :: log')
  | added {x : Exchange Frame M} {log log' : List (Exchange Frame M)} :
      allowed x.node x.before.remaining → x.after.remaining = x.before.remaining →
      Spread allowed log log' → Spread allowed log (x :: log')

/-- What comes of the second body is what comes of the first, with so many steps more at the end
than at the start, and it makes the same exchanges beside those that were added. -/
structure Alongside (session : Session Frame M) (allowed : Node → List Char → Prop)
    (body : Body M α) (frame : Frame) (memory : M) (body' : Body M α) (n k : Nat) : Prop where
  run : body'.run session (frame.shift n) memory =
    (body.run session frame memory).map fun (a, frame, memory) => (a, frame.shift (n + k), memory)
  log : ∀ {log : List (Exchange Frame M)} {a : α} {frame₁ : Frame} {memory₁ : M},
    Course session body frame memory log (.done a) frame₁ memory₁ →
    ∃ log', Course session body' (frame.shift n) memory log' (.done a) (frame₁.shift (n + k))
      memory₁ ∧ Spread allowed log log'

section Run

variable {run : Runner M} {allowed : Node → List Char → Prop} {node : Node} {frame : Frame}

/-- An unseen request gets one reply, however many requests were answered before. It adds a step,
or none when requests are refused. -/
theorem Unseen.reply (h : Unseen run node frame.remaining) (memory : M) :
    ∃ reply k, ∀ n, session run node (frame.shift n) memory =
      some (reply, frame.shift (n + k), memory) := by
  obtain ⟨remaining, step, failure⟩ := frame
  obtain ⟨answer, hanswer⟩ := h
  cases failure with
  | some failure => exact ⟨.error .mismatch, 0, fun n => rfl⟩
  | none => exact ⟨.ok answer, 1, fun n => hanswer (step + n) memory⟩

/-- A body between whose requests unseen ones are made comes to what it comes to without them. By
induction on how the requests are interspersed; each that is added is made in a frame that is the
other's but for the steps. -/
theorem alongside (hallowed : ∀ {node remaining}, allowed node remaining →
      Unseen run node remaining) {body body' : Body M α} {memory : M}
    (h : Interspersed (session run) allowed body frame memory body') (n : Nat) :
    ∃ k, Alongside (session run) allowed body frame memory body' n k := by
  induction h generalizing n with
  | done =>
      refine ⟨0, rfl, fun course => ?_⟩
      cases course with
      | here => exact ⟨[], .here, .nil⟩
  | @request node next next' frame memory _ ih =>
      -- Both bodies make this request, in frames that differ in the steps alone.
      have hshift := @session_shift M run n frame memory node
      cases hreply : session run node frame memory with
      | none =>
          rw [hreply, Option.map_none] at hshift
          refine ⟨0, by simp [Body.run, hreply, hshift], fun course => ?_⟩
          cases course with
          | request hreply' _ => simp [hreply] at hreply'
      | some found =>
          obtain ⟨reply, frame₁, memory₁⟩ := found
          rw [hreply, Option.map_some] at hshift
          obtain ⟨k, hrun, hlog⟩ := ih reply frame₁ memory₁ hreply n
          refine ⟨k, by simp only [Body.run, hreply, hshift, hrun], fun course => ?_⟩
          cases course with
          | request hreply' hrest =>
              obtain ⟨rfl, rfl, rfl⟩ : reply = _ ∧ frame₁ = _ ∧ memory₁ = _ := by
                simpa [hreply] using hreply'
              obtain ⟨log', hcourse, hspread⟩ := hlog hrest
              exact ⟨_, .request hshift hcourse, .same n hspread⟩
  | load _ ih =>
      obtain ⟨k, hrun, hlog⟩ := ih n
      refine ⟨k, hrun, fun course => ?_⟩
      cases course with
      | load hrest =>
          obtain ⟨log', hcourse, hspread⟩ := hlog hrest
          exact ⟨log', .load hcourse, hspread⟩
  | store _ ih =>
      obtain ⟨k, hrun, hlog⟩ := ih n
      refine ⟨k, hrun, fun course => ?_⟩
      cases course with
      | store hrest =>
          obtain ⟨log', hcourse, hspread⟩ := hlog hrest
          exact ⟨log', .store hcourse, hspread⟩
  | stuck =>
      refine ⟨0, rfl, fun course => ?_⟩
      cases course
  | @added node body next' frame memory hnode _ ih =>
      obtain ⟨reply, more, hreply⟩ := (hallowed hnode).reply memory
      -- Only the second body makes this request; it gets the reply that the hypothesis takes.
      have hunshifted := hreply 0
      rw [Frame.shift_zero] at hunshifted
      obtain ⟨k, hrun, hlog⟩ := ih reply _ memory hunshifted (n + more)
      rw [Nat.add_assoc] at hrun
      refine ⟨more + k, by simp only [Body.run, hreply, hrun], fun course => ?_⟩
      obtain ⟨log', hcourse, hspread⟩ := hlog course
      rw [Nat.add_assoc] at hcourse
      exact ⟨_, .request (hreply n) hcourse, .added hnode rfl hspread⟩

end Run

end TwoWay.Forward
