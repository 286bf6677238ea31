import TwoWay.Forward.Run
import TwoWay.Proofs.Course

/-!
A request over a text, candidate by candidate. A candidate either gives an
answer and leaves a text or is declined, and a request is decided by the first
candidate that is not declined.

From this follow the two facts about runs over a text that need no more than a
look at single candidates: a greater depth changes no result, and bodies that
act through their sessions alone run alike whatever the memory holds. A parse is
the course of the rule's body to its end, and the frame that it leaves decides
the result.
-/

namespace TwoWay.Forward

variable {M : Type}

/-- What a candidate comes to on a text: its answer and the text it leaves, or
else the failure of the rule that was run for it, if one was. -/
def attempt (run : Runner M) (input : List Char) :
    Candidate → M → Option (Except (Option Failure) (Answer × List Char) × M)
  | .literal text, memory =>
      match Text.dropLiteral? text.toList input with
      | some remaining => some (.ok (.literal text, remaining), memory)
      | none => some (.error none, memory)
  | .pattern p, memory =>
      match p.matchFront? input with
      | some (found, taken) => some (.ok (.pattern found, input.drop taken), memory)
      | none => some (.error none, memory)
  | .rule r, memory =>
      match run r input memory with
      | none => none
      | some (result, memory) =>
          match result.outcome with
          | .ok value => some (.ok (.rule value, result.remaining), memory)
          | .error failure => some (.error (some failure), memory)

section Attempt

variable {run : Runner M} {input : List Char} {c : Candidate} {memory memory' : M}

theorem attempt_ok_cases {answer : Answer} {remaining : List Char}
    (hc : attempt run input c memory = some (.ok (answer, remaining), memory')) :
    (∃ text, c = .literal text ∧ answer = .literal text ∧
      input = text.toList ++ remaining ∧ memory' = memory) ∨
    (∃ p found taken, c = .pattern p ∧ answer = .pattern found ∧
      p.matchFront? input = some (found, taken) ∧ remaining = input.drop taken ∧
      memory' = memory) ∨
    (∃ r value, c = .rule r ∧ answer = .rule value ∧
      run r input memory = some (⟨remaining, .ok value⟩, memory')) := by
  cases c with
  | literal text =>
      simp only [attempt] at hc
      cases hdrop : Text.dropLiteral? text.toList input with
      | none => simp [hdrop] at hc
      | some rest =>
          simp only [hdrop, Option.some.injEq, Prod.mk.injEq, Except.ok.injEq] at hc
          obtain ⟨⟨rfl, rfl⟩, rfl⟩ := hc
          exact Or.inl ⟨text, rfl, rfl, Text.dropLiteral?_eq_some.1 hdrop, rfl⟩
  | pattern p =>
      simp only [attempt] at hc
      cases hfront : p.matchFront? input with
      | none => simp [hfront] at hc
      | some matched =>
          obtain ⟨found, taken⟩ := matched
          simp only [hfront, Option.some.injEq, Prod.mk.injEq, Except.ok.injEq] at hc
          obtain ⟨⟨rfl, rfl⟩, rfl⟩ := hc
          exact Or.inr (Or.inl ⟨p, found, taken, rfl, rfl, hfront, rfl, rfl⟩)
  | rule r =>
      simp only [attempt] at hc
      cases hr : run r input memory with
      | none => simp [hr] at hc
      | some ended =>
          obtain ⟨⟨rest, outcome⟩, memory₁⟩ := ended
          cases outcome with
          | error failure => simp [hr] at hc
          | ok value =>
              simp only [hr, Option.some.injEq, Prod.mk.injEq, Except.ok.injEq] at hc
              obtain ⟨⟨rfl, rfl⟩, rfl⟩ := hc
              exact Or.inr (Or.inr ⟨r, value, rfl, rfl, hr⟩)

theorem attempt_error_cases {failure : Option Failure}
    (hc : attempt run input c memory = some (.error failure, memory')) :
    (∃ text, c = .literal text ∧ failure = none ∧
      (∀ remaining, input ≠ text.toList ++ remaining) ∧ memory' = memory) ∨
    (∃ p, c = .pattern p ∧ failure = none ∧ p.matchFront? input = none ∧ memory' = memory) ∨
    (∃ r rest f, c = .rule r ∧ failure = some f ∧
      run r input memory = some (⟨rest, .error f⟩, memory')) := by
  cases c with
  | literal text =>
      simp only [attempt] at hc
      cases hdrop : Text.dropLiteral? text.toList input with
      | some rest => simp [hdrop] at hc
      | none =>
          simp only [hdrop, Option.some.injEq, Prod.mk.injEq, Except.error.injEq] at hc
          obtain ⟨rfl, rfl⟩ := hc
          refine Or.inl ⟨text, rfl, rfl, fun remaining heq => ?_, rfl⟩
          rw [Text.dropLiteral?_eq_some.2 heq] at hdrop
          cases hdrop
  | pattern p =>
      simp only [attempt] at hc
      cases hfront : p.matchFront? input with
      | some found => simp [hfront] at hc
      | none =>
          simp only [hfront, Option.some.injEq, Prod.mk.injEq, Except.error.injEq] at hc
          obtain ⟨rfl, rfl⟩ := hc
          exact Or.inr (Or.inl ⟨p, rfl, rfl, hfront, rfl⟩)
  | rule r =>
      simp only [attempt] at hc
      cases hr : run r input memory with
      | none => simp [hr] at hc
      | some ended =>
          obtain ⟨⟨rest, outcome⟩, memory₁⟩ := ended
          cases outcome with
          | ok value => simp [hr] at hc
          | error f =>
              simp only [hr, Option.some.injEq, Prod.mk.injEq, Except.error.injEq] at hc
              obtain ⟨rfl, rfl⟩ := hc
              exact Or.inr (Or.inr ⟨r, rest, f, rfl, rfl, hr⟩)

end Attempt

/-- Candidates that are declined one after another, each with the memory that
the one before left, with the failures of the rules among them. -/
inductive Declined (run : Runner M) (input : List Char) :
    List Candidate → M → List Failure → M → Prop where
  | nil {memory : M} : Declined run input [] memory [] memory
  | cons {c : Candidate} {rest : List Candidate} {memory memory₁ memory' : M}
      {failure : Option Failure} {failures : List Failure} :
      attempt run input c memory = some (.error failure, memory₁) →
      Declined run input rest memory₁ failures memory' →
      Declined run input (c :: rest) memory (failure.toList ++ failures) memory'

section Candidates

variable {run : Runner M} {node : Node} {frame frame' : Frame} {memory memory' : M}

theorem tryCandidates_cons (c : Candidate) (rest : List Candidate) (nested : List Failure) :
    tryCandidates run node frame (c :: rest) nested memory =
      match attempt run frame.remaining c memory with
      | none => none
      | some (.ok (answer, remaining), memory) =>
          some (.ok answer, frame.advance remaining, memory)
      | some (.error failure, memory) =>
          tryCandidates run node frame rest (failure.toList ++ nested) memory := by
  cases c with
  | literal text =>
      simp only [tryCandidates, attempt]
      cases Text.dropLiteral? text.toList frame.remaining <;> rfl
  | pattern p =>
      simp only [tryCandidates, attempt]
      cases p.matchFront? frame.remaining <;> rfl
  | rule r =>
      simp only [tryCandidates, attempt]
      cases run r frame.remaining memory with
      | none => rfl
      | some found =>
          obtain ⟨result, memory₁⟩ := found
          cases hresult : result.outcome <;> simp [hresult]

theorem tryCandidates_of_declined {pre : List Candidate} {failures : List Failure}
    (hpre : Declined run frame.remaining pre memory failures memory')
    (post : List Candidate) (nested : List Failure) :
    tryCandidates run node frame (pre ++ post) nested memory =
      tryCandidates run node frame post (failures.reverse ++ nested) memory' := by
  induction hpre generalizing nested with
  | nil => rfl
  | @cons c rest memory memory₁ memory' failure failures hc _ ih =>
      rw [List.cons_append, tryCandidates_cons, hc]
      simp only [ih, List.reverse_append, List.append_assoc]
      cases failure <;> rfl

/-- Each list of candidates that is tried to an end is split by the one that
decides, or is declined as a whole. -/
theorem tryCandidates_split {candidates : List Candidate} {nested : List Failure} {reply : Reply}
    (htry : tryCandidates run node frame candidates nested memory =
      some (reply, frame', memory')) :
    (∃ pre c post failures memory₁ answer remaining,
      candidates = pre ++ c :: post ∧
      Declined run frame.remaining pre memory failures memory₁ ∧
      attempt run frame.remaining c memory₁ = some (.ok (answer, remaining), memory') ∧
      reply = .ok answer ∧ frame' = frame.advance remaining) ∨
    (∃ failures, Declined run frame.remaining candidates memory failures memory' ∧
      reply = .error .mismatch ∧
      frame' = { frame with
        failure := some (.mk frame.step (.unmatched node) (nested.reverse ++ failures)) }) := by
  induction candidates generalizing nested memory with
  | nil =>
      simp only [tryCandidates, Option.some.injEq, Prod.mk.injEq] at htry
      obtain ⟨rfl, rfl, rfl⟩ := htry
      exact Or.inr ⟨[], .nil, rfl, by simp⟩
  | cons c rest ih =>
      rw [tryCandidates_cons] at htry
      cases hc : attempt run frame.remaining c memory with
      | none => simp [hc] at htry
      | some found =>
          obtain ⟨result, memory₁⟩ := found
          cases result with
          | ok decided =>
              obtain ⟨answer, remaining⟩ := decided
              simp only [hc, Option.some.injEq, Prod.mk.injEq] at htry
              obtain ⟨rfl, rfl, rfl⟩ := htry
              exact Or.inl ⟨[], c, rest, [], memory, answer, remaining, rfl, .nil, hc, rfl, rfl⟩
          | error failure =>
              simp only [hc] at htry
              rcases ih htry with
                ⟨pre, c', post, failures, memory₂, answer, remaining, rfl, hpre, hc', hreply,
                  hframe⟩ | ⟨failures, hrest, hreply, hframe⟩
              · exact Or.inl ⟨c :: pre, c', post, _, memory₂, answer, remaining, rfl,
                  .cons hc hpre, hc', hreply, hframe⟩
              · refine Or.inr ⟨_, .cons hc hrest, hreply, ?_⟩
                rw [hframe]
                cases failure <;> simp

end Candidates

section Session

variable {run : Runner M} {node : Node} {frame : Frame} {memory : M}

theorem session_of_attempt {pre post : List Candidate} {c : Candidate} {failures : List Failure}
    {memory₁ memory' : M} {answer : Answer} {remaining : List Char}
    (hlive : frame.failure = none) (hnode : node.candidates = pre ++ c :: post)
    (hpre : Declined run frame.remaining pre memory failures memory₁)
    (hc : attempt run frame.remaining c memory₁ = some (.ok (answer, remaining), memory')) :
    session run node frame memory = some (.ok answer, frame.advance remaining, memory') := by
  simp only [session, hlive, Option.isSome_none, Bool.false_eq_true, if_false, hnode]
  rw [tryCandidates_of_declined hpre, tryCandidates_cons, hc]

theorem session_of_declined {failures : List Failure} {memory' : M}
    (hlive : frame.failure = none)
    (hnode : Declined run frame.remaining node.candidates memory failures memory') :
    session run node frame memory =
      some (.error .mismatch,
        { frame with failure := some (.mk frame.step (.unmatched node) failures) }, memory') := by
  simp only [session, hlive, Option.isSome_none, Bool.false_eq_true, if_false]
  rw [← List.append_nil node.candidates, tryCandidates_of_declined hnode]
  simp [tryCandidates]

theorem session_pattern (hlive : frame.failure = none) (p : Pattern) :
    session run (.pattern p) frame memory =
      some (match p.matchFront? frame.remaining with
        | some (found, taken) =>
            (.ok (.pattern found), frame.advance (frame.remaining.drop taken), memory)
        | none =>
            (.error .mismatch,
              { frame with failure := some (.mk frame.step (.unmatched (.pattern p)) []) },
              memory)) := by
  simp only [session, hlive, Option.isSome_none, Bool.false_eq_true, if_false, Node.candidates,
    tryCandidates]
  cases p.matchFront? frame.remaining <;> rfl

theorem session_rule (hlive : frame.failure = none) (r : Rule) :
    session run (.rule r) frame memory =
      (run r frame.remaining memory).map fun (result, memory) =>
        match result.outcome with
        | .ok value => (.ok (.rule value), frame.advance result.remaining, memory)
        | .error failure =>
            (.error .mismatch,
              { frame with failure := some (.mk frame.step (.unmatched (.rule r)) [failure]) },
              memory) := by
  simp only [session, hlive, Option.isSome_none, Bool.false_eq_true, if_false, Node.candidates,
    tryCandidates]
  cases run r frame.remaining memory with
  | none => rfl
  | some ended =>
      obtain ⟨⟨remaining, outcome⟩, memory₁⟩ := ended
      cases outcome <;> rfl

/-- All that a request can do. Once one has failed, nothing moves any more;
before that it is answered by the candidate that decides it, or fails. -/
theorem session_cases {reply : Reply} {frame' : Frame} {memory' : M}
    (hrun : session run node frame memory = some (reply, frame', memory')) :
    (frame.failure.isSome = true ∧ reply = .error .mismatch ∧ frame' = frame ∧
      memory' = memory) ∨
    (frame.failure = none ∧ ∃ pre c post failures memory₁ answer remaining,
      node.candidates = pre ++ c :: post ∧
      Declined run frame.remaining pre memory failures memory₁ ∧
      attempt run frame.remaining c memory₁ = some (.ok (answer, remaining), memory') ∧
      reply = .ok answer ∧ frame' = frame.advance remaining) ∨
    (frame.failure = none ∧ ∃ failures,
      Declined run frame.remaining node.candidates memory failures memory' ∧
      reply = .error .mismatch ∧
      frame' = { frame with failure := some (.mk frame.step (.unmatched node) failures) }) := by
  simp only [session] at hrun
  cases hfailure : frame.failure with
  | some failure =>
      simp only [hfailure, Option.isSome_some, if_true, Option.some.injEq, Prod.mk.injEq] at hrun
      obtain ⟨rfl, rfl, rfl⟩ := hrun
      exact Or.inl ⟨rfl, rfl, rfl, rfl⟩
  | none =>
      simp only [hfailure, Option.isSome_none, Bool.false_eq_true, if_false] at hrun
      rcases tryCandidates_split hrun with hdecided | ⟨failures, hnode, hreply, hframe⟩
      · exact Or.inr (Or.inl ⟨rfl, hdecided⟩)
      · exact Or.inr (Or.inr ⟨rfl, failures, hnode, hreply, by simpa using hframe⟩)

end Session

section Parse

@[simp] theorem finish_remaining (frame : Frame) (outcome : Outcome) :
    (frame.finish outcome).remaining = frame.remaining := by
  unfold Frame.finish
  split
  · rfl
  · split <;> rfl

theorem finish_eq_ok {frame : Frame} {outcome : Outcome} {value : Value} :
    (frame.finish outcome).outcome = .ok value ↔
      frame.failure = none ∧ outcome = .ok value := by
  unfold Frame.finish
  cases frame.failure with
  | some failure => simp
  | none =>
      cases outcome with
      | ok found => simp
      | error halt => cases halt <;> simp

theorem parse_succ (grammar : Grammar M) (depth : Nat) (r : Rule) (input : List Char)
    (memory : M) :
    parse grammar (depth + 1) r input memory =
      ((grammar r.id).run (session (parse grammar depth)) (Frame.start input) memory).map
        fun (outcome, frame, memory) => (frame.finish outcome, memory) := by
  simp only [parse]
  cases (grammar r.id).run (session (parse grammar depth)) (Frame.start input) memory <;> rfl

theorem course_of_parse {grammar : Grammar M} {depth : Nat} {r : Rule} {input : List Char}
    {memory memory' : M} {result : Result}
    (hparse : parse grammar (depth + 1) r input memory = some (result, memory')) :
    ∃ log outcome frame,
      Body.Course (session (parse grammar depth)) (grammar r.id) (Frame.start input) memory log
        (.done outcome) frame memory' ∧
      result = frame.finish outcome := by
  rw [parse_succ] at hparse
  obtain ⟨⟨outcome, frame, memory₁⟩, hrun, hended⟩ := Option.map_eq_some_iff.1 hparse
  obtain ⟨rfl, rfl⟩ := Prod.mk.inj hended
  obtain ⟨log, course⟩ := Body.course_of_run hrun
  exact ⟨log, outcome, frame, course, rfl⟩

end Parse

section Depth

/-- Whether one way of running rules gives all the results of another. -/
def Runner.Within (run larger : Runner M) : Prop :=
  ∀ ⦃r input memory result⦄,
    run r input memory = some result → larger r input memory = some result

variable {run larger : Runner M}

theorem attempt_within (hwithin : run.Within larger) {input : List Char} {c : Candidate}
    {memory : M} {found : Except (Option Failure) (Answer × List Char) × M}
    (hc : attempt run input c memory = some found) :
    attempt larger input c memory = some found := by
  cases c with
  | literal text => exact hc
  | pattern p => exact hc
  | rule r =>
      simp only [attempt] at hc ⊢
      cases hr : run r input memory with
      | none => simp [hr] at hc
      | some result =>
          rw [hr] at hc
          rw [hwithin hr]
          exact hc

theorem Declined.within (hwithin : run.Within larger) {input : List Char}
    {candidates : List Candidate} {failures : List Failure} {memory memory' : M}
    (h : Declined run input candidates memory failures memory') :
    Declined larger input candidates memory failures memory' := by
  induction h with
  | nil => exact .nil
  | cons hc _ ih => exact .cons (attempt_within hwithin hc) ih

theorem session_within (hwithin : run.Within larger) :
    Body.Within (session run) (session larger) := by
  intro node frame memory result hrun
  obtain ⟨reply, frame', memory'⟩ := result
  rcases session_cases hrun with ⟨hfailed, rfl, rfl, rfl⟩ |
    ⟨hlive, pre, c, post, failures, memory₁, answer, remaining, hnode, hpre, hc, rfl, rfl⟩ |
    ⟨hlive, failures, hnode, rfl, rfl⟩
  · simp [session, hfailed]
  · exact session_of_attempt hlive hnode (hpre.within hwithin) (attempt_within hwithin hc)
  · exact session_of_declined hlive (hnode.within hwithin)

theorem parse_within_succ (grammar : Grammar M) (depth : Nat) :
    Runner.Within (parse grammar depth) (parse grammar (depth + 1)) := by
  induction depth with
  | zero =>
      intro r input memory result hparse
      simp [parse] at hparse
  | succ depth ih =>
      intro r input memory result hparse
      rw [parse_succ] at hparse ⊢
      obtain ⟨ended, hbody, hended⟩ := Option.map_eq_some_iff.1 hparse
      rw [Body.run_within (session_within ih) hbody]
      exact congrArg some hended

theorem parse_within {grammar : Grammar M} {depth larger : Nat} (hle : depth ≤ larger) :
    Runner.Within (parse grammar depth) (parse grammar larger) := by
  induction hle with
  | refl => exact fun _ _ _ _ hparse => hparse
  | step _ ih => exact fun _ _ _ _ hparse => parse_within_succ grammar _ (ih hparse)

end Depth

section Memory

def Runner.IgnoresMemory (run : Runner M) : Prop :=
  ∀ ⦃r input memory result memory'⦄, run r input memory = some (result, memory') →
    memory' = memory ∧ ∀ other, run r input other = some (result, other)

variable {run : Runner M}

theorem attempt_ignores_memory (hrun : run.IgnoresMemory) {input : List Char} {c : Candidate}
    {memory memory' : M} {found : Except (Option Failure) (Answer × List Char)}
    (hc : attempt run input c memory = some (found, memory')) :
    memory' = memory ∧ ∀ other, attempt run input c other = some (found, other) := by
  cases c with
  | literal text =>
      simp only [attempt] at hc ⊢
      cases hdrop : Text.dropLiteral? text.toList input <;>
        (simp only [hdrop, Option.some.injEq, Prod.mk.injEq] at hc; simp [hc])
  | pattern p =>
      simp only [attempt] at hc ⊢
      cases hfront : p.matchFront? input <;>
        (simp only [hfront, Option.some.injEq, Prod.mk.injEq] at hc; simp [hc])
  | rule r =>
      simp only [attempt] at hc ⊢
      cases hr : run r input memory with
      | none => simp [hr] at hc
      | some ended =>
          obtain ⟨result, memory₁⟩ := ended
          obtain ⟨rfl, hother⟩ := hrun hr
          simp only [hr] at hc
          cases houtcome : result.outcome <;>
            (simp only [houtcome, Option.some.injEq, Prod.mk.injEq] at hc
             simp [hother, houtcome, hc])

theorem Declined.ignores_memory (hrun : run.IgnoresMemory) {input : List Char}
    {candidates : List Candidate} {failures : List Failure} {memory memory' : M}
    (h : Declined run input candidates memory failures memory') :
    memory' = memory ∧ ∀ other, Declined run input candidates other failures other := by
  induction h with
  | nil => exact ⟨rfl, fun other => .nil⟩
  | cons hc _ ih =>
      obtain ⟨rfl, hrest⟩ := ih
      obtain ⟨rfl, hfirst⟩ := attempt_ignores_memory hrun hc
      exact ⟨rfl, fun other => .cons (hfirst other) (hrest other)⟩

theorem session_ignores_memory (hrun : run.IgnoresMemory) :
    Body.IgnoresMemory (session run) := by
  intro node frame memory reply frame' memory' hreply
  rcases session_cases hreply with ⟨hfailed, rfl, rfl, rfl⟩ |
    ⟨hlive, pre, c, post, failures, memory₁, answer, remaining, hnode, hpre, hc, rfl, rfl⟩ |
    ⟨hlive, failures, hnode, rfl, rfl⟩
  · exact ⟨rfl, fun other => by simp [session, hfailed]⟩
  · obtain ⟨rfl, hc'⟩ := attempt_ignores_memory hrun hc
    obtain ⟨rfl, hpre'⟩ := hpre.ignores_memory hrun
    exact ⟨rfl, fun other => session_of_attempt hlive hnode (hpre' other) (hc' other)⟩
  · obtain ⟨rfl, hnode'⟩ := hnode.ignores_memory hrun
    exact ⟨rfl, fun other => session_of_declined hlive (hnode' other)⟩

/-- Bodies that act through their sessions alone run alike whatever the memory
holds. -/
theorem parse_ignores_memory {grammar : Grammar M} (honly : ∀ id, (grammar id).SessionOnly)
    (depth : Nat) : Runner.IgnoresMemory (parse grammar depth) := by
  induction depth with
  | zero =>
      intro r input memory result memory' hparse
      simp [parse] at hparse
  | succ depth ih =>
      intro r input memory result memory' hparse
      rw [parse_succ] at hparse
      obtain ⟨⟨outcome, frame, memory₁⟩, hbody, hended⟩ := Option.map_eq_some_iff.1 hparse
      obtain ⟨rfl, rfl⟩ := Prod.mk.inj hended
      obtain ⟨hkept, hother⟩ :=
        Body.run_ignores_memory (session_ignores_memory ih) (honly r.id) hbody
      refine ⟨hkept, fun other => ?_⟩
      rw [parse_succ, hother other]
      rfl

/-- A rule that is run on a text by itself comes to `result`, at each depth that is
enough for it, and leaves the memory as it was. -/
def Parses (grammar : Grammar M) (memory : M) (r : Rule) (input : List Char)
    (result : Result) : Prop :=
  ∃ least, ∀ depth, least ≤ depth → parse grammar depth r input memory = some (result, memory)

theorem parses_of_parse {grammar : Grammar M} (honly : ∀ id, (grammar id).SessionOnly)
    {depth : Nat} {r : Rule} {input : List Char} {memory memory' : M} {result : Result}
    (hparse : parse grammar depth r input memory = some (result, memory')) (other : M) :
    Parses grammar other r input result := by
  obtain ⟨_, hother⟩ := parse_ignores_memory honly depth hparse
  exact ⟨depth, fun _ hle => parse_within hle (hother other)⟩

end Memory

end TwoWay.Forward
