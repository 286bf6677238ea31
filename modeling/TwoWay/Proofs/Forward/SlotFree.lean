import TwoWay.Grammar.Standard
import TwoWay.Proofs.Forward.Consumption
import TwoWay.Proofs.Making
import TwoWay.Proofs.Value.SlotFree

/-!
Runs over a text make no slots. A literal is answered with its text and a pattern with the
text that it matched; a rule is answered with the value of its own run, which by induction on
the depth is free of slots. So a slot could only come from a body that has it from elsewhere.
-/

namespace TwoWay

variable {M : Type}

/-- Whether a body makes no slot: of replies without slots, and of memories in which there
are none, it makes only such memories and values without slots. -/
def Body.SlotFree (shared : M → Prop) (body : Body M Outcome) : Prop :=
  body.Makes Reply.SlotFree shared Outcome.SlotFree

variable {shared : M → Prop}

namespace Body

theorem makes_literal (text : String) :
    (Body.literal text : Body M _).Makes Reply.SlotFree shared fun _ => True := by
  refine (makes_ask _).bind fun reply _ => ?_
  split <;> trivial

theorem makes_pattern (p : Pattern) :
    (Body.pattern p : Body M _).Makes Reply.SlotFree shared
      fun reply => ∀ found, reply = .ok found → found.text.SlotFree := by
  refine (makes_ask _).bind fun reply hreply => ?_
  split
  · exact fun _ heq => Except.ok.inj heq ▸ Reply.slotFree_ok.1 hreply
  · exact fun _ heq => (by cases heq)
  · exact fun _ heq => (by cases heq)

theorem makes_rule (r : Rule) :
    (Body.rule r : Body M _).Makes Reply.SlotFree shared Outcome.SlotFree := by
  refine (makes_ask _).bind fun reply hreply => ?_
  cases reply with
  | ok found => exact Outcome.slotFree_ok.2 (Reply.slotFree_ok.1 hreply)
  | error halt => exact Outcome.slotFree_error halt

end Body

namespace Standard

theorem slotFree_has (item : Node) : (has item : Body M Outcome).SlotFree shared := by
  refine (Body.makes_ask _).bind fun reply _ => ?_
  cases reply with
  | ok _ => exact Outcome.slotFree_ok.2 (Value.slotFree_bool _)
  | error halt => exact Outcome.slotFree_error halt

theorem slotFree_optional (items : List Node) :
    (optional items : Body M Outcome).SlotFree shared := by
  refine (Body.makes_ask _).bind fun reply hreply => ?_
  cases reply with
  | ok found =>
      refine Outcome.slotFree_ok.2 ?_
      split
      · exact Value.slotFree_nil
      · exact Reply.slotFree_ok.1 hreply
  | error halt => exact Outcome.slotFree_error halt

theorem slotFree_sequence (nodes : List Node) :
    (sequence nodes : Body M Outcome).SlotFree shared := by
  induction nodes with
  | nil => exact Outcome.slotFree_ok.2 Value.slotFree_nil
  | cons node rest ih =>
      refine (Body.makes_ask _).bind fun reply _ => ?_
      cases reply with
      | ok _ => exact ih
      | error halt => exact Outcome.slotFree_error halt

theorem slotFree_of_pattern {p : Pattern} {f : Pattern.Match → Value}
    (hf : ∀ found, (f found).SlotFree) :
    Body.SlotFree shared (M := M) (do
      match ← Body.pattern p with
      | .ok found => return .ok (f found)
      | .error halt => return .error halt) := by
  refine (Body.makes_pattern p).bind fun reply _ => ?_
  cases reply with
  | ok found => exact Outcome.slotFree_ok.2 (hf found)
  | error halt => exact Outcome.slotFree_error halt

theorem slotFree_mustEnd : (mustEnd : Body M Outcome).SlotFree shared :=
  slotFree_of_pattern fun _ => Value.slotFree_nil

theorem slotFree_hasMore : (hasMore : Body M Outcome).SlotFree shared :=
  slotFree_of_pattern fun _ => Value.slotFree_bool _

theorem slotFree_isEnd : (isEnd : Body M Outcome).SlotFree shared :=
  slotFree_of_pattern fun _ => Value.slotFree_bool _

end Standard

namespace Forward

open Body (Course Gives)

def Runner.SlotFree (shared : M → Prop) (run : Runner M) : Prop :=
  ∀ ⦃r input memory result memory'⦄, run r input memory = some (result, memory') →
    shared memory → (∀ value, result.outcome = .ok value → value.SlotFree) ∧ shared memory'

theorem slotFree_of_matchFront? {p : Pattern} {input : List Char} {found : Pattern.Match}
    {taken : Nat} (hfront : p.matchFront? input = some (found, taken)) : found.text.SlotFree := by
  unfold Pattern.matchFront? at hfront
  cases hfind : p.find? input with
  | none => simp [hfind] at hfront
  | some m =>
      simp only [hfind] at hfront
      split at hfront
      · cases hfront
      · obtain ⟨rfl, _⟩ := Prod.mk.inj (Option.some.inj hfront)
        exact Value.slotFree_string _

section Request

variable {run : Runner M} {input : List Char} {memory memory' : M}

theorem attempt_slotFree (hrun : run.SlotFree shared) {c : Candidate}
    {found : Except (Option Failure) (Answer × List Char)}
    (hc : attempt run input c memory = some (found, memory')) (hmemory : shared memory) :
    (∀ answer remaining, found = .ok (answer, remaining) → answer.SlotFree) ∧
      shared memory' := by
  cases found with
  | ok decided =>
      obtain ⟨answer, remaining⟩ := decided
      have hanswer : answer.SlotFree ∧ shared memory' := by
        rcases attempt_ok_cases hc with ⟨text, _, rfl, _, rfl⟩ |
          ⟨p, matched, taken, _, rfl, hfront, _, rfl⟩ | ⟨r, value, _, rfl, hr⟩
        · exact ⟨Value.slotFree_string text, hmemory⟩
        · exact ⟨slotFree_of_matchFront? hfront, hmemory⟩
        · obtain ⟨hvalue, hshared⟩ := hrun hr hmemory
          exact ⟨hvalue value rfl, hshared⟩
      refine ⟨fun _ _ heq => ?_, hanswer.2⟩
      obtain ⟨rfl, _⟩ := Prod.mk.inj (Except.ok.inj heq)
      exact hanswer.1
  | error failure =>
      refine ⟨fun _ _ heq => (by cases heq), ?_⟩
      rcases attempt_error_cases hc with ⟨_, _, _, _, rfl⟩ | ⟨_, _, _, _, rfl⟩ |
        ⟨r, rest, f, _, _, hr⟩
      · exact hmemory
      · exact hmemory
      · exact (hrun hr hmemory).2

theorem Declined.keeps (hrun : run.SlotFree shared) {candidates : List Candidate}
    {failures : List Failure} (h : Declined run input candidates memory failures memory')
    (hmemory : shared memory) : shared memory' := by
  induction h with
  | nil => exact hmemory
  | cons hc _ ih => exact ih (attempt_slotFree hrun hc hmemory).2

theorem session_gives (hrun : run.SlotFree shared) :
    Gives Reply.SlotFree shared (session run) := by
  intro node frame memory reply frame' memory' hreply hmemory
  rcases session_cases hreply with ⟨_, rfl, _, rfl⟩ |
    ⟨_, pre, c, post, failures, memory₁, answer, remaining, _, hpre, hc, rfl, _⟩ |
    ⟨_, failures, hnode, rfl, _⟩
  · exact ⟨Reply.slotFree_error _, hmemory⟩
  · obtain ⟨hanswer, hshared⟩ := attempt_slotFree hrun hc (hpre.keeps hrun hmemory)
    exact ⟨Reply.slotFree_ok.2 (hanswer answer remaining rfl), hshared⟩
  · exact ⟨Reply.slotFree_error _, hnode.keeps hrun hmemory⟩

end Request

section Parse

variable {grammar : Grammar M} (hmakes : ∀ id, (grammar id).SlotFree shared)

include hmakes

/-- By induction on the depth: the rules below come to values without slots, so all requests
of the frame are answered without slots. -/
theorem parse_slotFree (depth : Nat) : Runner.SlotFree shared (parse grammar depth) := by
  induction depth with
  | zero =>
      intro r input memory result memory' hparse
      simp [parse] at hparse
  | succ depth ih =>
      intro r input memory result memory' hparse hmemory
      obtain ⟨log, outcome, frame, course, rfl⟩ := course_of_parse hparse
      obtain ⟨houtcome, hshared, _⟩ := (hmakes r.id).course (session_gives ih) course hmemory
      refine ⟨fun value hvalue => ?_, hshared⟩
      obtain ⟨_, rfl⟩ := finish_eq_ok.1 hvalue
      exact Outcome.slotFree_ok.1 houtcome

theorem Opens.keeps {depth d : Nat} {r q : Rule} {input start : List Char} {memory memory' : M}
    (opens : Opens grammar depth r input memory d q start memory') (hmemory : shared memory) :
    shared memory' := by
  induction opens with
  | own => exact hmemory
  | @nested d q _ _ _ _ _ _ _ _ _ _ _ _ _ course _ _ hpre ih =>
      have hrun := parse_slotFree hmakes d
      obtain ⟨_, hshared, _⟩ := (hmakes q.id).course (session_gives hrun) course ih
      exact hpre.keeps hrun hshared

end Parse

/-- A run over a text in which no slot turns up. -/
structure RunsSlotFree (shared : M → Prop) (grammar : Grammar M) (depth : Nat) (r : Rule)
    (input : List Char) (memory : M) : Prop where
  /-- At each point of each frame, the answers so far have no slot, the memory has none, and
  neither has anything that the body may go on with. -/
  frames : ∀ ⦃d q start memory₁ log left frame memory₂⦄,
    Opens grammar depth r input memory (d + 1) q start memory₁ →
    Course (session (parse grammar d)) (grammar q.id) (Frame.start start) memory₁ log left frame
      memory₂ →
    left.SlotFree shared ∧ shared memory₂ ∧ ∀ x ∈ log, x.reply.SlotFree ∧ shared x.memory
  result : ∀ ⦃result memory'⦄, parse grammar depth r input memory = some (result, memory') →
    (∀ value, result.outcome = .ok value → value.SlotFree) ∧ shared memory'

theorem runsSlotFree {grammar : Grammar M} (hmakes : ∀ id, (grammar id).SlotFree shared)
    (depth : Nat) (r : Rule) (input : List Char) {memory : M} (hmemory : shared memory) :
    RunsSlotFree shared grammar depth r input memory where
  frames d q _ _ _ _ _ _ opens course :=
    (hmakes q.id).course (session_gives (parse_slotFree hmakes d)) course
      (opens.keeps hmakes hmemory)
  result _ _ hparse := parse_slotFree hmakes depth hparse hmemory

end Forward

end TwoWay
