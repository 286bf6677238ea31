import TwoWay.Proofs.Course

/-!
What bodies make of what they are given. A condition on replies and one on what the memory
holds are carried through a body when from such replies and such memories it makes only such
memories, and only results of a certain kind. Against a session that gives such replies this
holds at each point of a run, and of what the run comes to.
-/

namespace TwoWay.Body

variable {M α β σ : Type} {given : Reply → Prop} {shared : M → Prop}

/-- Whether a body that gets only replies that are `given`, and finds the memory only as it
may be `shared`, leaves the memory so and comes only to results that are `made` so. -/
def Makes (given : Reply → Prop) (shared : M → Prop) (made : α → Prop) : Body M α → Prop
  | .done a => made a
  | .request _ next => ∀ reply, given reply → (next reply).Makes given shared made
  | .load next => ∀ memory, shared memory → (next memory).Makes given shared made
  | .store memory next => shared memory ∧ next.Makes given shared made
  | .stuck => True

theorem Makes.bind {made : α → Prop} {made' : β → Prop} {body : Body M α} {f : α → Body M β}
    (h : body.Makes given shared made) (hf : ∀ a, made a → (f a).Makes given shared made') :
    (body >>= f).Makes given shared made' := by
  show (body.bind f).Makes given shared made'
  induction body with
  | done a => exact hf a h
  | request node next ih => exact fun reply hreply => ih reply (h reply hreply)
  | load next ih => exact fun memory hmemory => ih memory (h memory hmemory)
  | store memory next ih => exact ⟨h.1, ih h.2⟩
  | stuck => trivial

theorem makes_ask (node : Node) : (ask node : Body M Reply).Makes given shared given :=
  fun _ hreply => hreply

/-- Whether a session that finds the memory as it may be `shared` leaves it so, and gives only
replies that are `given`. -/
def Gives (given : Reply → Prop) (shared : M → Prop) (session : Session σ M) : Prop :=
  ∀ ⦃node state memory reply state' memory'⦄,
    session node state memory = some (reply, state', memory') → shared memory →
      given reply ∧ shared memory'

section Gives

variable {made : α → Prop} {session : Session σ M} {body body' : Body M α} {state state' : σ}
  {memory memory' : M} {log : List (Exchange σ M)}

/-- All along a course the replies are as given, the memory is as shared, and what is left of
the body makes of them what the body does. -/
theorem Makes.course (hsession : Gives given shared session)
    (course : Course session body state memory log body' state' memory')
    (hbody : body.Makes given shared made) (hmemory : shared memory) :
    body'.Makes given shared made ∧ shared memory' ∧
      ∀ x ∈ log, given x.reply ∧ shared x.memory := by
  induction course with
  | here => exact ⟨hbody, hmemory, by simp⟩
  | request hreply _ ih =>
      obtain ⟨hgiven, hshared⟩ := hsession hreply hmemory
      obtain ⟨hleft, hlast, hlog⟩ := ih (hbody _ hgiven) hshared
      exact ⟨hleft, hlast, List.forall_mem_cons.2 ⟨⟨hgiven, hmemory⟩, hlog⟩⟩
  | load _ ih => exact ih (hbody _ hmemory) hmemory
  | store _ ih => exact ih hbody.2 hbody.1

end Gives

end TwoWay.Body
