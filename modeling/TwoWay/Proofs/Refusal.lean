import Mathlib.Data.List.Forall2
import TwoWay.Proofs.Course

/-!
Sessions that have come to refuse every request. In such a state a body moves
nothing any more: it comes to what it makes of refusals alone, whoever wrote the
rest of it, and the state stays what it was.

What a session does between two states depends on the requests it gets and not
on the body that makes them. So two bodies that make the same requests bring a
session to the same state, and once that state refuses all requests nothing
they do afterwards can tell their runs apart.
-/

namespace TwoWay.Body

variable {σ M α : Type}

/-- Whether a session in a state answers every request with `halt` and changes
nothing. -/
def Refuses (session : Session σ M) (halt : Halt) (state : σ) : Prop :=
  ∀ node memory, session node state memory = some (.error halt, state, memory)

/-- What a body comes to when every request of it is answered with `halt`. -/
def whenRefused (halt : Halt) : Body M α → M → Option (α × M)
  | .done a, memory => some (a, memory)
  | .request _ next, memory => (next (.error halt)).whenRefused halt memory
  | .load next, memory => (next memory).whenRefused halt memory
  | .store stored next, _ => next.whenRefused halt stored
  | .stuck, _ => none

section Refuses

variable {session : Session σ M} {halt : Halt} {state : σ}

/-- Against a session that refuses, a body comes to what it makes of refusals and
the state is kept. -/
theorem Refuses.run_eq (hrefuses : Refuses session halt state) (body : Body M α) (memory : M) :
    body.run session state memory =
      (body.whenRefused halt memory).map fun (a, memory) => (a, state, memory) := by
  induction body generalizing memory with
  | done a => rfl
  | request node next ih =>
      simp only [Body.run, hrefuses node memory]
      exact ih (.error halt) memory
  | load next ih => exact ih memory memory
  | store stored next ih => exact ih stored
  | stuck => rfl

theorem Refuses.course (hrefuses : Refuses session halt state) {body body' : Body M α}
    {state' : σ} {memory memory' : M} {log : List (Exchange σ M)}
    (course : Course session body state memory log body' state' memory') :
    state' = state ∧
      ∀ e ∈ log, e.reply = .error halt ∧ e.before = state ∧ e.after = state := by
  induction course with
  | here => exact ⟨rfl, by simp⟩
  | @request node next state state₁ state' memory memory₁ memory' reply log body' hreply _ ih =>
      rw [hrefuses node memory] at hreply
      simp only [Option.some.injEq, Prod.mk.injEq] at hreply
      obtain ⟨rfl, rfl, rfl⟩ := hreply
      obtain ⟨hstate, hlog⟩ := ih hrefuses
      refine ⟨hstate, ?_⟩
      intro e he
      rcases List.mem_cons.1 he with rfl | he
      · exact ⟨rfl, rfl, rfl⟩
      · exact hlog e he
  | load _ ih => exact ih hrefuses
  | store _ ih => exact ih hrefuses

end Refuses

/-- A course with an exchange in its log comes to the request of that exchange,
has the reply, and goes on from there. -/
theorem Course.split {session : Session σ M} {body body' : Body M α} {state state' : σ}
    {memory memory' : M} {pre post : List (Exchange σ M)} {e : Exchange σ M}
    (course : Course session body state memory (pre ++ e :: post) body' state' memory') :
    ∃ next memory₁,
      Course session body state memory pre (.request e.node next) e.before e.memory ∧
      session e.node e.before e.memory = some (e.reply, e.after, memory₁) ∧
      Course session (next e.reply) e.after memory₁ post body' state' memory' := by
  generalize hlog : pre ++ e :: post = log at course
  induction course generalizing pre with
  | here => simp at hlog
  | @request node next state state₁ state' memory memory₁ memory' reply log body' hreply hrest ih =>
      cases pre with
      | nil =>
          obtain ⟨rfl, rfl⟩ := List.cons.inj hlog
          exact ⟨next, memory₁, .here, hreply, hrest⟩
      | cons first pre =>
          obtain ⟨rfl, htail⟩ := List.cons.inj hlog
          obtain ⟨next', memory₂, hbefore, hsession, hafter⟩ := ih htail
          exact ⟨next', memory₂, .request hreply hbefore, hsession, hafter⟩
  | load _ ih =>
      obtain ⟨next', memory₂, hbefore, hsession, hafter⟩ := ih hlog
      exact ⟨next', memory₂, .load hbefore, hsession, hafter⟩
  | store _ ih =>
      obtain ⟨next', memory₂, hbefore, hsession, hafter⟩ := ih hlog
      exact ⟨next', memory₂, .store hbefore, hsession, hafter⟩

/-- A course that comes from a state where `p` does not hold to one where it does has
an exchange at which this changes. -/
theorem Course.change {session : Session σ M} {body body' : Body M α} {state state' : σ}
    {memory memory' : M} {log : List (Exchange σ M)} {p : σ → Bool}
    (course : Course session body state memory log body' state' memory')
    (hstart : p state = false) (hend : p state' = true) :
    ∃ node next state₁ memory₁ reply state₂ memory₂ pre post,
      Course session body state memory pre (.request node next) state₁ memory₁ ∧
      p state₁ = false ∧ session node state₁ memory₁ = some (reply, state₂, memory₂) ∧
      p state₂ = true ∧ Course session (next reply) state₂ memory₂ post body' state' memory' := by
  induction course with
  | here =>
      rw [hstart] at hend
      cases hend
  | @request node next state state₁ state' memory memory₁ memory' reply log body' hreply hrest ih =>
      cases hchanged : p state₁ with
      | true =>
          exact ⟨node, next, state, memory, reply, state₁, memory₁, [], log, .here, hstart, hreply,
            hchanged, hrest⟩
      | false =>
          obtain ⟨node', next', state₂, memory₂, reply', state₃, memory₃, pre, post, hbefore,
            hrest'⟩ := ih hchanged hend
          exact ⟨node', next', state₂, memory₂, reply', state₃, memory₃, _, post,
            .request hreply hbefore, hrest'⟩
  | load _ ih =>
      obtain ⟨node', next', state₂, memory₂, reply', state₃, memory₃, pre, post, hbefore, hrest'⟩ :=
        ih hstart hend
      exact ⟨node', next', state₂, memory₂, reply', state₃, memory₃, pre, post, .load hbefore,
        hrest'⟩
  | store _ ih =>
      obtain ⟨node', next', state₂, memory₂, reply', state₃, memory₃, pre, post, hbefore, hrest'⟩ :=
        ih hstart hend
      exact ⟨node', next', state₂, memory₂, reply', state₃, memory₃, pre, post, .store hbefore,
        hrest'⟩

/-- Exchanges of a session one after another, from a state to another. What the
bodies that made the requests did between them is left open. -/
inductive Linked (session : Session σ M) : σ → List (Exchange σ M) → σ → Prop where
  | nil {state : σ} : Linked session state [] state
  | cons {node : Node} {state state₁ state' : σ} {memory memory₁ : M} {reply : Reply}
      {log : List (Exchange σ M)} :
      session node state memory = some (reply, state₁, memory₁) →
      Linked session state₁ log state' →
      Linked session state (⟨node, state, memory, reply, state₁⟩ :: log) state'

theorem Course.linked {session : Session σ M} {body body' : Body M α} {state state' : σ}
    {memory memory' : M} {log : List (Exchange σ M)}
    (course : Course session body state memory log body' state' memory') :
    Linked session state log state' := by
  induction course with
  | here => exact .nil
  | request hreply _ ih => exact .cons hreply ih
  | load _ ih => exact ih
  | store _ ih => exact ih

theorem Course.uncons {session : Session σ M} {body body' : Body M α} {state state' : σ}
    {memory memory' : M} {log : List (Exchange σ M)} {e : Exchange σ M}
    (course : Course session body state memory (e :: log) body' state' memory') :
    ∃ next memory₁, e.before = state ∧
      Course session body state memory [] (.request e.node next) state e.memory ∧
      session e.node state e.memory = some (e.reply, e.after, memory₁) ∧
      Course session (next e.reply) e.after memory₁ log body' state' memory' := by
  have hsplit : Course session body state memory ([] ++ e :: log) body' state' memory' := course
  obtain ⟨next, memory₁, hbefore, hreply, hafter⟩ := hsplit.split
  have hstate : e.before = state := by
    cases hbefore.linked
    rfl
  rw [hstate] at hbefore hreply
  exact ⟨next, memory₁, hstate, hbefore, hreply, hafter⟩

/-- Whether two lists of exchanges make the same requests: for the same nodes, and
with the same memory unless it is `unseen` by what answers them. -/
def SameRequests (unseen : Prop) (log log' : List (Exchange σ M)) : Prop :=
  List.Forall₂ (fun e e' => e.node = e'.node ∧ (e.memory = e'.memory ∨ unseen)) log log'

theorem Linked.state_eq {session : Session σ M} {unseen : Prop}
    (hunseen : unseen → IgnoresMemory session) {state stop stop' : σ}
    {log log' : List (Exchange σ M)} (hlog : Linked session state log stop)
    (hlog' : Linked session state log' stop') (hsame : SameRequests unseen log log') :
    stop = stop' := by
  induction hlog generalizing log' with
  | nil =>
      cases hsame
      cases hlog'
      rfl
  | @cons node state state₁ stop memory memory₁ reply log hreply _ ih =>
      cases hsame with
      | cons hfirst hrest =>
          cases hlog' with
          | @cons _ _ state₁' _ memory' memory₁' reply' _ hreply' hlog' =>
              obtain ⟨rfl, hmemory⟩ := hfirst
              have hmoved : state₁ = state₁' := by
                rcases hmemory with hmemory | hblind
                · have heq : memory = memory' := hmemory
                  rw [heq, hreply'] at hreply
                  simp only [Option.some.injEq, Prod.mk.injEq] at hreply
                  exact hreply.2.1.symm
                · have hother := (hunseen hblind hreply).2 memory'
                  rw [hreply'] at hother
                  simp only [Option.some.injEq, Prod.mk.injEq] at hother
                  exact hother.2.1.symm
              subst hmoved
              exact ih hlog' hrest

end TwoWay.Body
