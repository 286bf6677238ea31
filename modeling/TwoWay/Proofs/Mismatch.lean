import TwoWay.Grammar.Standard
import TwoWay.Proofs.Backward.Rollback
import TwoWay.Proofs.Forward.Attempt
import TwoWay.Proofs.Refusal

/-!
A mismatch is final. Once a request of a rule has found no candidate, the frame
of that rule turns away all that is asked of it afterwards, and the rule fails as
it did at that moment, whatever its body makes of the halt.

The two directions keep this in different ways. A run over a text records the
failure in the frame. An inversion marks the frame beside a flag that all frames
share, and that flag is looked at first; but no frame is marked once the needle
is met, and a frame that is marked starts no rule that could meet it.
-/

namespace TwoWay

open Body (Course Exchange Linked Refuses SameRequests)

variable {σ M : Type}

/-- Whether `e` is the first of some exchanges in which no candidate matched. -/
structure FirstMismatch (pre : List (Exchange σ M)) (e : Exchange σ M) : Prop where
  reply : e.reply = .error .mismatch
  before : ∀ x ∈ pre, x.reply ≠ .error .mismatch

/-- Whether a session turns away in a state all that is asked of it, be it by the
rest of its body, in which the exchanges `post` were had, or by any other body
that is run on it. -/
structure Spent (session : Session σ M) (state : σ) (post : List (Exchange σ M)) : Prop where
  requests : Refuses session .mismatch state
  bodies : ∀ (body : Body M Outcome) memory, body.run session state memory =
    (body.whenRefused .mismatch memory).map fun (outcome, memory) => (outcome, state, memory)
  rest : ∀ x ∈ post, x.reply = .error .mismatch ∧ x.before = state ∧ x.after = state

/-- After an exchange that leaves its session refusing, a course stays where the
exchange left it. -/
theorem spent_of_refuses {session : Session σ M} {body body' : Body M Outcome}
    {state state' : σ} {memory memory' : M} {pre post : List (Exchange σ M)} {e : Exchange σ M}
    (course : Course session body state memory (pre ++ e :: post) body' state' memory')
    (hrefuses : Refuses session .mismatch e.after) :
    state' = e.after ∧ Spent session state' post := by
  obtain ⟨next, memory₁, _, _, hrest⟩ := course.split
  obtain ⟨rfl, hpost⟩ := hrefuses.course hrest
  exact ⟨rfl, hrefuses, fun later memory => hrefuses.run_eq later memory, hpost⟩

namespace Forward

section Request

variable {run : Runner M} {node : Node} {frame frame' : Frame} {memory memory' : M}
  {reply : Reply}

theorem refuses_of_failure (hfailed : frame.failure.isSome = true) :
    Refuses (session run) .mismatch frame := by
  intro node memory
  simp [session, hfailed]

theorem recorded_of_mismatch (hlive : frame.failure = none)
    (hreply : session run node frame memory = some (.error .mismatch, frame', memory')) :
    ∃ failures, frame' =
      { frame with failure := some (.mk frame.step (.unmatched node) failures) } := by
  rcases session_cases hreply with ⟨hfailed, _⟩ | ⟨_, _, _, _, _, _, _, _, _, _, _, heq, _⟩ |
    ⟨_, failures, _, _, hframe⟩
  · simp [hlive] at hfailed
  · cases heq
  · exact ⟨failures, hframe⟩

theorem live_of_answered (hanswered : reply ≠ .error .mismatch)
    (hreply : session run node frame memory = some (reply, frame', memory')) :
    frame'.failure = none := by
  rcases session_cases hreply with ⟨_, heq, _⟩ |
    ⟨hlive, _, _, _, _, _, _, remaining, _, _, _, _, rfl⟩ | ⟨_, _, _, heq, _⟩
  · exact absurd heq hanswered
  · exact hlive
  · exact absurd heq hanswered

theorem Linked.live {log : List (Exchange Frame M)}
    (hlinked : Linked (session run) frame log frame') (hlive : frame.failure = none)
    (hanswered : ∀ x ∈ log, x.reply ≠ .error .mismatch) : frame'.failure = none := by
  induction hlinked with
  | nil => exact hlive
  | cons hreply _ ih =>
      obtain ⟨hfirst, hrest⟩ := List.forall_mem_cons.1 hanswered
      exact ih (live_of_answered hfirst hreply) hrest

end Request

variable {grammar : Grammar M} {depth : Nat} {r : Rule} {input : List Char}
  {body : Body M Outcome} {frame : Frame} {memory memory' : M} {log : List (Exchange Frame M)}

/-- From the moment at which a failure is recorded it is the result of the run, if
the body comes to an end. -/
theorem parse_of_failure
    (course : Course (session (parse grammar depth)) (grammar r.id) (Frame.start input) memory log
      body frame memory')
    {failure : Failure} (hfailure : frame.failure = some failure) :
    parse grammar (depth + 1) r input memory =
      (body.whenRefused .mismatch memory').map fun (_, memory) =>
        (⟨frame.remaining, .error failure⟩, memory) := by
  have hrefuses : Refuses (session (parse grammar depth)) .mismatch frame :=
    refuses_of_failure (by simp [hfailure])
  rw [parse_succ, course.run_eq, hrefuses.run_eq, Option.map_map]
  congr 1
  funext ended
  simp [Frame.finish, hfailure]

theorem recorded_first {pre post : List (Exchange Frame M)} {e : Exchange Frame M}
    (course : Course (session (parse grammar depth)) (grammar r.id) (Frame.start input) memory
      (pre ++ e :: post) body frame memory')
    (hfirst : FirstMismatch pre e) :
    (∃ failures, frame =
      { e.before with failure := some (.mk e.before.step (.unmatched e.node) failures) }) ∧
    frame = e.after ∧ Spent (session (parse grammar depth)) frame post := by
  obtain ⟨next, memory₁, hbefore, hreply, _⟩ := course.split
  rw [hfirst.reply] at hreply
  have hlive : e.before.failure = none := Linked.live hbefore.linked rfl hfirst.before
  obtain ⟨failures, hafter⟩ := recorded_of_mismatch hlive hreply
  have hrefuses : Refuses (session (parse grammar depth)) .mismatch e.after :=
    refuses_of_failure (by simp [hafter])
  obtain ⟨hframe, hspent⟩ := spent_of_refuses course hrefuses
  exact ⟨⟨failures, hframe.trans hafter⟩, hframe, hspent⟩

end Forward

namespace Backward

section Request

variable {run : Runner M} {node : Node} {frame frame' : Frame} {memory memory' : M}

theorem attempt_ne_mismatch {c : Candidate} {draft draft' : Draft} :
    attempt run c draft memory ≠ some (some (.error .mismatch), draft', memory') := by
  intro hc
  obtain ⟨_, _, hresolved, _⟩ := complete_of_attempt hc
  cases hresolved

theorem halted_of_mismatch (hrun : run.Atomic)
    (hreply : session run node frame memory = some (.error .mismatch, frame', memory')) :
    frame.draft.resolved = false ∧ frame' = ⟨frame.draft, true⟩ := by
  rcases session_cases hreply with ⟨_, heq, _⟩ | ⟨hopen, hhalted, _, rfl, _⟩ |
    ⟨_, _, _, _, _, _, _, _, _, _, hc, _⟩ | ⟨hopen, _, draft₁, hpassed, _, rfl⟩
  · cases heq
  · refine ⟨hopen, ?_⟩
    rw [← hhalted]
  · exact absurd hc attempt_ne_mismatch
  · obtain rfl := hpassed.draft_eq hrun hopen
    exact ⟨hopen, rfl⟩

end Request

variable {grammar : Grammar M} {needle : Needle} {depth : Nat} {r : Rule} {draft : Draft}
  {body : Body M Outcome} {frame : Frame} {memory memory' : M} {log : List (Exchange Frame M)}

theorem live_of_halted {run : Runner M} {start : Body M Outcome}
    (course : Course (session run) start ⟨draft, false⟩ memory log body frame memory')
    (hhalted : frame.halted = true) : draft.resolved = false := by
  cases hresolved : draft.resolved with
  | false => rfl
  | true =>
      have hrefuses : Refuses (session run) .resolved ⟨draft, false⟩ :=
        refuses_of_resolved hresolved
      obtain ⟨rfl, _⟩ := hrefuses.course course
      cases hhalted

/-- From the moment at which the frame of a rule is marked the rule fails and
leaves the draft that it began with, if the body comes to an end. -/
theorem synthesize_of_halted
    (course : Course (session (synthesize grammar needle depth)) (grammar r.id) ⟨draft, false⟩
      memory log body frame memory')
    (hopen : frame.draft.resolved = false) (hhalted : frame.halted = true) :
    synthesize grammar needle (depth + 1) r draft memory =
      (body.whenRefused .mismatch memory').map fun (_, memory) => (.failed, draft, memory) := by
  have hlive := live_of_halted course hhalted
  have hback : frame.draft.rollback draft = draft :=
    (keeps_of_course hlive course hopen).rollback hlive
  have hrefuses : Refuses (session (synthesize grammar needle depth)) .mismatch frame :=
    refuses_of_halted hopen hhalted
  rw [synthesize_succ, course.run_eq, hrefuses.run_eq, Option.map_map]
  congr 1
  funext ended
  simp [Frame.finish, hopen, hhalted, hback]

theorem marked_first {pre post : List (Exchange Frame M)} {e : Exchange Frame M}
    (course : Course (session (synthesize grammar needle depth)) (grammar r.id) ⟨draft, false⟩
      memory (pre ++ e :: post) body frame memory')
    (hmismatch : e.reply = .error .mismatch) :
    frame = ⟨e.before.draft, true⟩ ∧ frame.draft.resolved = false ∧ frame = e.after ∧
      Spent (session (synthesize grammar needle depth)) frame post := by
  obtain ⟨next, memory₁, _, hreply, _⟩ := course.split
  rw [hmismatch] at hreply
  obtain ⟨hopen, hafter⟩ := halted_of_mismatch (synthesize_atomic grammar needle depth) hreply
  have hrefuses : Refuses (session (synthesize grammar needle depth)) .mismatch e.after := by
    rw [hafter]
    exact refuses_of_halted hopen rfl
  obtain ⟨hframe, hspent⟩ := spent_of_refuses course hrefuses
  refine ⟨hframe.trans hafter, ?_, hframe, hspent⟩
  rw [hframe, hafter]
  exact hopen

end Backward

/-- A mismatch is final in both directions. After the first request of a rule that found no
candidate, a run over a text fails with the failure of that request, and leaves the text that was
left then; an inversion of the rule fails and gives back the draft it began with. So two rules that
make the same requests up to and with their first mismatch end alike, if they end, whatever their
bodies do afterwards. -/
theorem mismatch_is_final (grammar : Grammar M) (needle : Needle) (depth : Nat) :
    (∀ {r : Rule} {input : List Char} {memory memory' : M}
        {pre post : List (Exchange Forward.Frame M)} {e : Exchange Forward.Frame M}
        {body : Body M Outcome} {frame : Forward.Frame},
      Course (Forward.session (Forward.parse grammar depth)) (grammar r.id) (.start input) memory
        (pre ++ e :: post) body frame memory' →
      FirstMismatch pre e →
      frame = e.after ∧ Spent (Forward.session (Forward.parse grammar depth)) frame post ∧
      ∃ failures,
        frame = ⟨e.before.remaining, e.before.step,
          some (.mk e.before.step (.unmatched e.node) failures)⟩ ∧
        Forward.parse grammar (depth + 1) r input memory =
          (body.whenRefused .mismatch memory').map fun (_, memory) =>
            (⟨e.before.remaining, .error (.mk e.before.step (.unmatched e.node) failures)⟩,
              memory)) ∧
    (∀ {r r' : Rule} {input : List Char} {memory₀ memory memory₀' memory' : M}
        {pre log' : List (Exchange Forward.Frame M)} {e : Exchange Forward.Frame M}
        {body body' : Body M Outcome} {frame frame' : Forward.Frame},
      Course (Forward.session (Forward.parse grammar depth)) (grammar r.id) (.start input) memory₀
        (pre ++ [e]) body frame memory →
      FirstMismatch pre e →
      Course (Forward.session (Forward.parse grammar depth)) (grammar r'.id) (.start input)
        memory₀' log' body' frame' memory' →
      SameRequests (∀ id, (grammar id).SessionOnly) (pre ++ [e]) log' →
      ∃ result,
        Forward.parse grammar (depth + 1) r input memory₀ =
          (body.whenRefused .mismatch memory).map (fun (_, memory) => (result, memory)) ∧
        Forward.parse grammar (depth + 1) r' input memory₀' =
          (body'.whenRefused .mismatch memory').map fun (_, memory) => (result, memory)) ∧
    (∀ {r : Rule} {draft : Backward.Draft} {memory memory' : M}
        {pre post : List (Exchange Backward.Frame M)} {e : Exchange Backward.Frame M}
        {body : Body M Outcome} {frame : Backward.Frame},
      Course (Backward.session (Backward.synthesize grammar needle depth)) (grammar r.id)
        ⟨draft, false⟩ memory (pre ++ e :: post) body frame memory' →
      FirstMismatch pre e →
      frame = e.after ∧
      Spent (Backward.session (Backward.synthesize grammar needle depth)) frame post ∧
      frame = ⟨e.before.draft, true⟩ ∧ frame.draft.resolved = false ∧
      Backward.synthesize grammar needle (depth + 1) r draft memory =
        (body.whenRefused .mismatch memory').map fun (_, memory) => (.failed, draft, memory)) ∧
    (∀ {r r' : Rule} {draft : Backward.Draft} {memory₀ memory memory₀' memory' : M}
        {pre log' : List (Exchange Backward.Frame M)} {e : Exchange Backward.Frame M}
        {body body' : Body M Outcome} {frame frame' : Backward.Frame},
      Course (Backward.session (Backward.synthesize grammar needle depth)) (grammar r.id)
        ⟨draft, false⟩ memory₀ (pre ++ [e]) body frame memory →
      FirstMismatch pre e →
      Course (Backward.session (Backward.synthesize grammar needle depth)) (grammar r'.id)
        ⟨draft, false⟩ memory₀' log' body' frame' memory' →
      SameRequests (∀ id, (grammar id).SessionOnly) (pre ++ [e]) log' →
      Backward.synthesize grammar needle (depth + 1) r draft memory₀ =
        (body.whenRefused .mismatch memory).map (fun (_, memory) => (.failed, draft, memory)) ∧
      Backward.synthesize grammar needle (depth + 1) r' draft memory₀' =
        (body'.whenRefused .mismatch memory').map fun (_, memory) => (.failed, draft, memory)) := by
  refine ⟨?_, ?_, ?_, ?_⟩
  · intro r input memory memory' pre post e body frame course hfirst
    obtain ⟨⟨failures, hrecorded⟩, hframe, hspent⟩ := Forward.recorded_first course hfirst
    refine ⟨hframe, hspent, failures, hrecorded, ?_⟩
    have hparse := Forward.parse_of_failure course (congrArg Forward.Frame.failure hrecorded)
    rw [hparse, hrecorded]
  · intro r r' input memory₀ memory memory₀' memory' pre log' e body body' frame frame' course
      hfirst course' hsame
    obtain ⟨⟨failures, hrecorded⟩, _, _⟩ := Forward.recorded_first course hfirst
    -- The two courses make the same requests, so they come to the same frame.
    have hunseen : (∀ id, (grammar id).SessionOnly) →
        Body.IgnoresMemory (Forward.session (Forward.parse grammar depth)) :=
      fun honly => Forward.session_ignores_memory (Forward.parse_ignores_memory honly depth)
    obtain rfl := Linked.state_eq hunseen course.linked course'.linked hsame
    have hfailure := congrArg Forward.Frame.failure hrecorded
    exact ⟨_, Forward.parse_of_failure course hfailure, Forward.parse_of_failure course' hfailure⟩
  · intro r draft memory memory' pre post e body frame course hfirst
    obtain ⟨hmarked, hopen, hframe, hspent⟩ := Backward.marked_first course hfirst.reply
    have hhalted : frame.halted = true := congrArg Backward.Frame.halted hmarked
    exact ⟨hframe, hspent, hmarked, hopen, Backward.synthesize_of_halted course hopen hhalted⟩
  · intro r r' draft memory₀ memory memory₀' memory' pre log' e body body' frame frame' course
      hfirst course' hsame
    obtain ⟨hmarked, hopen, _, _⟩ := Backward.marked_first course hfirst.reply
    have hhalted : frame.halted = true := congrArg Backward.Frame.halted hmarked
    have hunseen : (∀ id, (grammar id).SessionOnly) →
        Body.IgnoresMemory (Backward.session (Backward.synthesize grammar needle depth)) :=
      fun honly =>
        Backward.session_ignores_memory (Backward.synthesize_ignores_memory honly needle depth)
    obtain rfl := Linked.state_eq hunseen course.linked course'.linked hsame
    exact ⟨Backward.synthesize_of_halted course hopen hhalted,
      Backward.synthesize_of_halted course' hopen hhalted⟩

/-- A rule that passes its first mismatch on and one that drops it, goes on asking and
comes to the very value that the needle wants. The request is for a choice within a
choice, of a rule that takes a text before it gives up. -/
theorem mismatch_is_final_dropped :
    let wanted : Node := .choice [.choice [.rule ⟨2, "refusing"⟩], .choice []]
    let grammar : Grammar Unit := fun
      | 0 => Standard.sequence [.literal "a", wanted]
      | 1 => do
          let _ ← Body.ask (.literal "a")
          let _ ← Body.ask wanted
          let _ ← Body.ask (.literal "b")
          return .ok (.map [("key", .string "value")])
      | _ => do
          let _ ← Body.ask (.literal "b")
          return .error (.rejected "no")
    let needle := Needle.single "key" (.string "value") rfl
    let passing : Rule := ⟨0, "passing"⟩
    let dropping : Rule := ⟨1, "dropping"⟩
    (∃ result,
      Forward.parse grammar 2 passing "ab".toList () = some (result, ()) ∧
      Forward.parse grammar 2 dropping "ab".toList () = some (result, ())) ∧
    Backward.synthesize grammar needle 2 passing .empty () = some (.failed, .empty, ()) ∧
    Backward.synthesize grammar needle 2 dropping .empty () = some (.failed, .empty, ()) := by
  intro wanted grammar needle passing dropping
  obtain ⟨_, hforward, _, hbackward⟩ := mismatch_is_final grammar needle 1
  constructor
  · have hpassing : Course (Forward.session (Forward.parse grammar 1)) (grammar passing.id)
        (.start ['a', 'b']) () ([_] ++ [_]) (.done (.error .mismatch)) _ () :=
      .request rfl (.request rfl .here)
    have hdropping : Course (Forward.session (Forward.parse grammar 1)) (grammar dropping.id)
        (.start ['a', 'b']) () [_, _] _ _ () :=
      .request rfl (.request rfl .here)
    have hboth := @hforward passing dropping
    refine hboth hpassing ?_ hdropping ?_
    · exact ⟨rfl, by simp⟩
    · exact .cons ⟨rfl, Or.inl rfl⟩ (.cons ⟨rfl, Or.inl rfl⟩ .nil)
  · have hpassing : Course (Backward.session (Backward.synthesize grammar needle 1))
        (grammar passing.id) ⟨.empty, false⟩ () ([_] ++ [_]) (.done (.error .mismatch)) _ () :=
      .request rfl (.request rfl .here)
    have hdropping : Course (Backward.session (Backward.synthesize grammar needle 1))
        (grammar dropping.id) ⟨.empty, false⟩ () [_, _] _ _ () :=
      .request rfl (.request rfl .here)
    have hboth := @hbackward passing dropping
    refine hboth hpassing ?_ hdropping ?_
    · exact ⟨rfl, by simp⟩
    · exact .cons ⟨rfl, Or.inl rfl⟩ (.cons ⟨rfl, Or.inl rfl⟩ .nil)

end TwoWay
