import TwoWay.Grammar.Standard
import TwoWay.Proofs.AnswerKind
import TwoWay.Proofs.Forward.FailureTree
import TwoWay.Proofs.Hearing

/-!
No failure over a text goes unexplained. A run that ends with a halt which neither came from
its session nor is a rejection would be held to have said something that no one said. Bodies
that only stop with the halts that they got and with rejections of their own never come to
that: a session over a text gives no halt but the one for which it has recorded a failure. So
each frame that fails has recorded the request that failed, or its body has turned down what it
had matched.
-/

namespace TwoWay

variable {M : Type}

/-- Whether a halt is a rejection, or one of the replies that a body has `heard`. -/
def Halt.Explained (heard : List Reply) (halt : Halt) : Prop :=
  halt.isRejection = true ∨ .error halt ∈ heard

def StopsExplained {β : Type} (heard : List Reply) (result : Except Halt β) : Prop :=
  ∀ halt, result = .error halt → halt.Explained heard

theorem stopsExplained_ok {β : Type} (heard : List Reply) (b : β) :
    StopsExplained heard (.ok b) := by
  intro halt heq
  cases heq

theorem stopsExplained_error {β : Type} {heard : List Reply} {halt : Halt}
    (h : halt.Explained heard) : StopsExplained heard (.error halt : Except Halt β) :=
  fun _ heq => Except.error.inj heq ▸ h

namespace Forward

/-- What a session over a text can reply to a request. -/
inductive Hears (node : Node) : Reply → Prop where
  | answer {answer : Answer} : node.Fits answer → Hears node (.ok answer)
  | mismatch : Hears node (.error .mismatch)

theorem hears_of_session {run : Runner M} ⦃node : Node⦄ ⦃frame : Frame⦄ ⦃memory : M⦄
    ⦃reply : Reply⦄ ⦃frame' : Frame⦄ ⦃memory' : M⦄
    (hreply : session run node frame memory = some (reply, frame', memory')) :
    Hears node reply := by
  rcases session_cases hreply with ⟨_, rfl, _⟩ | ⟨_, _, _, _, _, _, _, _, _, _, _, rfl, _⟩ |
    ⟨_, _, _, rfl, _⟩
  · exact .mismatch
  · exact .answer (session_fitting run hreply)
  · exact .mismatch

end Forward

namespace Body

variable {β : Type} {body : Body M (Except Halt β)}

/-- Whether a body, run over a text, stops only with rejections and with halts that its session
gave it. -/
def Explained (body : Body M (Except Halt β)) : Prop := body.Ends Forward.Hears StopsExplained []

theorem Explained.after (h : body.Explained) (heard : List Reply) :
    body.Ends Forward.Hears StopsExplained heard := by
  refine h.mono (fun heard more outcome hsub hends halt heq => ?_) (List.nil_subset heard)
  exact (hends halt heq).imp_right fun hmem => hsub hmem

theorem explained_request {node : Node} {next : Reply → Body M (Except Halt β)}
    (hok : ∀ answer, node.Fits answer → (next (.ok answer)).Explained)
    (herror : ∀ halt, next (.error halt) = .done (.error halt)) :
    (Body.request node next).Explained := by
  intro reply hreply
  cases hreply with
  | answer hfits => exact (hok _ hfits).after _
  | mismatch =>
      rw [herror]
      exact stopsExplained_error (Or.inr List.mem_cons_self)

end Body

namespace Standard

theorem explained_sequence (nodes : List Node) : (sequence nodes : Body M Outcome).Explained := by
  induction nodes with
  | nil => exact stopsExplained_ok [] Value.nil
  | cons node rest ih => exact Body.explained_request (fun _ _ => ih) fun _ => rfl

theorem explained_has (item : Node) : (has item : Body M Outcome).Explained :=
  Body.explained_request (fun _ _ => stopsExplained_ok [] _) fun _ => rfl

theorem explained_optional (items : List Node) : (optional items : Body M Outcome).Explained :=
  Body.explained_request (fun _ _ => stopsExplained_ok [] _) fun _ => rfl

/-- An answer to the request for a pattern is a match, so the halt that stands in for another
kind of answer is never met. -/
theorem explained_of_pattern {p : Pattern} {f : Pattern.Match → Value} :
    Body.Explained (M := M) (do
      match ← Body.pattern p with
      | .ok found => return .ok (f found)
      | .error halt => return .error halt) := by
  refine Body.explained_request (fun answer hfits => ?_) fun _ => rfl
  obtain ⟨found, rfl⟩ := Node.fits_pattern.1 hfits
  exact stopsExplained_ok [] _

theorem explained_mustEnd : (mustEnd : Body M Outcome).Explained := explained_of_pattern

theorem explained_hasMore : (hasMore : Body M Outcome).Explained := explained_of_pattern

theorem explained_isEnd : (isEnd : Body M Outcome).Explained := explained_of_pattern

end Standard

namespace Forward

open Body (Course Exchange answered)

section Frame

variable {run : Runner M} {body : Body M Outcome} {frame frame' : Frame} {memory memory' : M}
  {log : List (Exchange Frame M)} {outcome : Outcome}

/-- How a frame that failed stopped: at the first of its requests that was not answered, or at
a rejection of its body after nothing but answers. -/
inductive Stopped (run : Runner M) (log : List (Exchange Frame M)) (outcome : Outcome) :
    Failure → Prop where
  | recorded {before after : List (Exchange Frame M)} {x : Exchange Frame M}
      {failures : List Failure} {memory' : M} :
      log = before ++ x :: after → (∀ y ∈ before, y.reply.isOk = true) →
      x.reply = .error .mismatch →
      Declined run x.before.remaining x.node.candidates x.memory failures memory' →
      Stopped run log outcome (.mk (answered log).length (.unmatched x.node) failures)
  | raised {message : String} :
      (∀ y ∈ log, y.reply.isOk = true) → outcome = .error (.rejected message) →
      Stopped run log outcome (.mk (answered log).length (.rejected message) [])

theorem stopsExplained_of_course (hbody : body.Explained)
    (course : Course (session run) body frame memory log (.done outcome) frame' memory') :
    StopsExplained (log.map Exchange.reply) outcome := by
  intro halt hhalt
  refine (hbody.course hears_of_session course halt hhalt).imp_right fun hheard => ?_
  simpa using hheard

/-- A halt with which a body stops while its frame has recorded no failure is a rejection, since
all replies were answers. -/
theorem rejected_of_live {halt : Halt} (hhalt : halt.Explained (log.map Exchange.reply))
    (course : Course (session run) body frame memory log (.done (.error halt)) frame' memory')
    (hlive : frame'.failure = none) : ∃ message, halt = .rejected message := by
  rcases hhalt with hrejection | hheard
  · cases halt with
    | rejected message => exact ⟨message, rfl⟩
    | mismatch => cases hrejection
    | resolved => cases hrejection
  · obtain ⟨y, hy, hreply⟩ := List.mem_map.1 hheard
    have hok := answered_of_live course hlive y hy
    rw [hreply] at hok
    cases hok

theorem stopped_of_course {start : List Char} {e : Failure}
    (course : Course (session run) body (Frame.start start) memory log (.done outcome) frame'
      memory')
    (houtcome : StopsExplained (log.map Exchange.reply) outcome)
    (hfailed : (frame'.finish outcome).outcome = .error e) : Stopped run log outcome e := by
  have hstep : frame'.step = (answered log).length := by
    simpa [Frame.start] using step_of_course course
  rcases finish_eq_error hfailed with hrecorded | ⟨hlive, halt, rfl, rfl⟩
  · obtain ⟨before, x, after, failures, memory₁, hlog, hbefore, _, hx, _, hdeclined, rfl⟩ :=
      recorded_of_course course rfl hrecorded
    rw [hstep]
    exact .recorded hlog hbefore hx hdeclined
  · obtain ⟨message, rfl⟩ := rejected_of_live (houtcome halt rfl) course hlive
    rw [hstep]
    exact .raised (answered_of_live course hlive) rfl

theorem Stopped.rejected {e : Failure} {message : String} (h : Stopped run log outcome e)
    (hcause : e.cause = .rejected message) : outcome = .error (.rejected message) := by
  cases h with
  | recorded => cases hcause
  | raised _ houtcome => exact Cause.rejected.inj hcause ▸ houtcome

end Frame

section Run

variable {grammar : Grammar M} {depth : Nat} {r : Rule} {input : List Char} {memory memory' : M}

def HaltsExplained (grammar : Grammar M) (depth : Nat) (r : Rule) (input : List Char)
    (memory : M) : Prop :=
  ∀ ⦃d q start memory₁ log outcome frame memory₂⦄,
    Opens grammar depth r input memory (d + 1) q start memory₁ →
    Course (session (parse grammar d)) (grammar q.id) (Frame.start start) memory₁ log
      (.done outcome) frame memory₂ →
    StopsExplained (log.map Exchange.reply) outcome

theorem haltsExplained (hbodies : ∀ id, (grammar id).Explained) :
    HaltsExplained grammar depth r input memory :=
  fun _ q _ _ _ _ _ _ _ course => stopsExplained_of_course (hbodies q.id) course

/-- Each place in the tree of a failure is that of a frame of the run, and says how this frame
stopped. -/
theorem stopped_of_preorder (hhalts : HaltsExplained grammar depth r input memory)
    {remaining : List Char} {failure : Failure}
    (hparse : parse grammar depth r input memory = some (⟨remaining, .error failure⟩, memory'))
    {level : Nat} {e : Failure} (he : (level, e) ∈ failure.preorder 0) :
    ∃ d q start memory₁ log outcome frame memory₂, d + 1 + level = depth ∧
      Opens grammar depth r input memory (d + 1) q start memory₁ ∧
      Course (session (parse grammar d)) (grammar q.id) (Frame.start start) memory₁ log
        (.done outcome) frame memory₂ ∧
      (frame.finish outcome).outcome = .error e ∧ Stopped (parse grammar d) log outcome e := by
  obtain ⟨d, q, start, memory₁, rest, memory₂, hlevel, opens, hfailed⟩ :=
    opens_of_preorder .own hparse (Nat.add_zero depth) he
  obtain ⟨log, outcome, frame, course, hresult⟩ := course_of_parse hfailed
  have hfinish : (frame.finish outcome).outcome = .error e := by rw [← hresult]
  exact ⟨d, q, start, memory₁, log, outcome, frame, memory₂, hlevel, opens, course, hfinish,
    stopped_of_course course (hhalts opens course) hfinish⟩

end Run

end Forward

end TwoWay
