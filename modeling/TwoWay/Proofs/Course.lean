import TwoWay.Grammar.Body

/-!
The course of a run. A body and its session exchange requests and replies; the
course of a run lists these exchanges and says what is left of the body after
them. Whatever every exchange preserves holds at all points of a course, and a
finished run is a course whose body is done.

Two relations between sessions carry over to whole runs: answering more
requests in the same way, and taking no notice of the memory.
-/

namespace TwoWay.Body

variable {σ M α : Type}

/-- A request, the reply to it, and the session's state and memory when it was
made and its state afterwards. -/
structure Exchange (σ M : Type) where
  node : Node
  before : σ
  memory : M
  reply : Reply
  after : σ

def answered (log : List (Exchange σ M)) : List (Exchange σ M) :=
  log.filter (·.reply.isOk)

@[simp] theorem answered_nil : answered ([] : List (Exchange σ M)) = [] := rfl

@[simp] theorem answered_cons_ok (node : Node) (before : σ) (memory : M) (answer : Answer)
    (after : σ) (log : List (Exchange σ M)) :
    answered (⟨node, before, memory, .ok answer, after⟩ :: log) =
      ⟨node, before, memory, .ok answer, after⟩ :: answered log := rfl

@[simp] theorem answered_cons_error (node : Node) (before : σ) (memory : M) (halt : Halt)
    (after : σ) (log : List (Exchange σ M)) :
    answered (⟨node, before, memory, .error halt, after⟩ :: log) = answered log := rfl

/-- A body run from a state and a memory has had the exchanges `log` and comes
to a point where another body is left to run. -/
inductive Course (session : Session σ M) :
    Body M α → σ → M → List (Exchange σ M) → Body M α → σ → M → Prop where
  | here {body : Body M α} {state : σ} {memory : M} :
      Course session body state memory [] body state memory
  | request {node : Node} {next : Reply → Body M α} {state state₁ state' : σ}
      {memory memory₁ memory' : M} {reply : Reply} {log : List (Exchange σ M)}
      {body' : Body M α} :
      session node state memory = some (reply, state₁, memory₁) →
      Course session (next reply) state₁ memory₁ log body' state' memory' →
      Course session (.request node next) state memory
        (⟨node, state, memory, reply, state₁⟩ :: log) body' state' memory'
  | load {next : M → Body M α} {state state' : σ} {memory memory' : M}
      {log : List (Exchange σ M)} {body' : Body M α} :
      Course session (next memory) state memory log body' state' memory' →
      Course session (.load next) state memory log body' state' memory'
  | store {stored : M} {next : Body M α} {state state' : σ} {memory memory' : M}
      {log : List (Exchange σ M)} {body' : Body M α} :
      Course session next state stored log body' state' memory' →
      Course session (.store stored next) state memory log body' state' memory'

section Course

variable {session : Session σ M} {body body' : Body M α} {state state' : σ}
  {memory memory' : M} {log : List (Exchange σ M)}

/-- A run ends as what is left of it at any point of its course. -/
theorem Course.run_eq (course : Course session body state memory log body' state' memory') :
    body.run session state memory = body'.run session state' memory' := by
  induction course with
  | here => rfl
  | request hreply _ ih =>
      simp only [Body.run, hreply]
      exact ih
  | load _ ih => exact ih
  | store _ ih => exact ih

theorem Course.trans {log' : List (Exchange σ M)} {body'' : Body M α} {state'' : σ} {memory'' : M}
    (course : Course session body state memory log body' state' memory')
    (rest : Course session body' state' memory' log' body'' state'' memory'') :
    Course session body state memory (log ++ log') body'' state'' memory'' := by
  induction course with
  | here => exact rest
  | request hreply _ ih => exact .request hreply (ih rest)
  | load _ ih => exact .load (ih rest)
  | store _ ih => exact .store (ih rest)

theorem course_of_run {a : α} (hrun : body.run session state memory = some (a, state', memory')) :
    ∃ log, Course session body state memory log (.done a) state' memory' := by
  induction body generalizing state memory with
  | done b =>
      simp only [Body.run, Option.some.injEq, Prod.mk.injEq] at hrun
      obtain ⟨rfl, rfl, rfl⟩ := hrun
      exact ⟨[], .here⟩
  | request node next ih =>
      simp only [Body.run] at hrun
      cases hreply : session node state memory with
      | none => simp [hreply] at hrun
      | some found =>
          obtain ⟨reply, state₁, memory₁⟩ := found
          simp only [hreply] at hrun
          obtain ⟨log, course⟩ := ih reply hrun
          exact ⟨_, .request hreply course⟩
  | load next ih =>
      obtain ⟨log, course⟩ := ih memory hrun
      exact ⟨log, .load course⟩
  | store stored next ih =>
      obtain ⟨log, course⟩ := ih hrun
      exact ⟨log, .store course⟩
  | stuck => simp [Body.run] at hrun

theorem Course.preserves {P : σ → Prop}
    (hstep : ∀ ⦃node state memory reply state' memory'⦄,
      session node state memory = some (reply, state', memory') → P state → P state')
    (course : Course session body state memory log body' state' memory')
    (hstart : P state) : P state' := by
  induction course with
  | here => exact hstart
  | request hreply _ ih => exact ih (hstep hreply hstart)
  | load _ ih => exact ih hstart
  | store _ ih => exact ih hstart

end Course

/-- A session that replies as another does to all that a body asks of that other runs the body
alike. -/
theorem run_eq_of_course {session other : Session σ M} {body : Body M α} {state : σ} {memory : M}
    (hreplies : ∀ {log node next state' memory'},
      Course session body state memory log (.request node next) state' memory' →
        other node state' memory' = session node state' memory') :
    body.run other state memory = body.run session state memory := by
  induction body generalizing state memory with
  | done a => rfl
  | request node next ih =>
      simp only [Body.run, hreplies .here]
      cases hreply : session node state memory with
      | none => rfl
      | some found =>
          obtain ⟨reply, state₁, memory₁⟩ := found
          exact ih reply fun course => hreplies (.request hreply course)
  | load next ih => exact ih memory fun course => hreplies (.load course)
  | store stored next ih => exact ih fun course => hreplies (.store course)
  | stuck => rfl

def Within (session larger : Session σ M) : Prop :=
  ∀ ⦃node state memory result⦄,
    session node state memory = some result → larger node state memory = some result

theorem run_within {session larger : Session σ M} (hwithin : Within session larger)
    {body : Body M α} {state : σ} {memory : M} {result : α × σ × M}
    (hrun : body.run session state memory = some result) :
    body.run larger state memory = some result := by
  induction body generalizing state memory with
  | done b => exact hrun
  | request node next ih =>
      simp only [Body.run] at hrun ⊢
      cases hreply : session node state memory with
      | none => simp [hreply] at hrun
      | some found =>
          obtain ⟨reply, state₁, memory₁⟩ := found
          simp only [hreply] at hrun
          rw [hwithin hreply]
          exact ih reply hrun
  | load next ih => exact ih memory hrun
  | store stored next ih => exact ih hrun
  | stuck => simp [Body.run] at hrun

def IgnoresMemory (session : Session σ M) : Prop :=
  ∀ ⦃node state memory reply state' memory'⦄,
    session node state memory = some (reply, state', memory') →
      memory' = memory ∧ ∀ other, session node state other = some (reply, state', other)

/-- A body that acts through its session alone runs alike whatever the memory
holds, when its session does. -/
theorem run_ignores_memory {session : Session σ M} (hsession : IgnoresMemory session)
    {body : Body M α} (honly : body.SessionOnly) {state state' : σ} {memory memory' : M} {a : α}
    (hrun : body.run session state memory = some (a, state', memory')) :
    memory' = memory ∧ ∀ other, body.run session state other = some (a, state', other) := by
  induction body generalizing state memory with
  | done b =>
      simp only [Body.run, Option.some.injEq, Prod.mk.injEq] at hrun
      obtain ⟨rfl, rfl, rfl⟩ := hrun
      exact ⟨rfl, fun other => rfl⟩
  | request node next ih =>
      simp only [Body.run] at hrun
      cases hreply : session node state memory with
      | none => simp [hreply] at hrun
      | some found =>
          obtain ⟨reply, state₁, memory₁⟩ := found
          simp only [hreply] at hrun
          obtain ⟨rfl, hother⟩ := hsession hreply
          obtain ⟨hkept, hrest⟩ := ih reply (honly reply) hrun
          refine ⟨hkept, fun other => ?_⟩
          simp only [Body.run, hother other]
          exact hrest other
  | load next => exact honly.elim
  | store stored next => exact honly.elim
  | stuck => simp [Body.run] at hrun

theorem Course.eq_of_nil {session : Session σ M} {body body' : Body M α} {state state' : σ}
    {memory memory' : M} (honly : body.SessionOnly)
    (course : Course session body state memory [] body' state' memory') :
    body' = body ∧ state' = state := by
  cases course with
  | here => exact ⟨rfl, rfl⟩
  | load => exact honly.elim
  | store => exact honly.elim

theorem Course.memory_eq {session : Session σ M} (hsession : IgnoresMemory session)
    {body body' : Body M α} (honly : body.SessionOnly) {state state' : σ} {memory memory' : M}
    {log : List (Exchange σ M)}
    (course : Course session body state memory log body' state' memory') : memory' = memory := by
  induction course with
  | here => rfl
  | request hreply _ ih =>
      obtain ⟨rfl, _⟩ := hsession hreply
      exact ih (honly _)
  | load => exact honly.elim
  | store => exact honly.elim

end TwoWay.Body
