import TwoWay.Grammar.Standard
import TwoWay.Proofs.Forward.Attempt

/-!
Ordered choice with full backtracking. What a candidate makes of a text on its
own is said apart from requests: a literal begins the text, a pattern matches
at its front, a rule parses it. A request is then decided by the first of its
candidates that matches on its own. What was tried before leaves no trace, and
what stands behind is not looked at.

The bodies of the grammar act through their sessions alone. A body that shared
a memory with others could tell how often it had been tried.
-/

namespace TwoWay.Forward

variable {M : Type}

/-- A candidate matches a text on its own, with an answer and the text it
leaves. -/
inductive Matches (grammar : Grammar M) (input : List Char) (memory : M) :
    Candidate → Answer → List Char → Prop where
  | literal {text : String} {remaining : List Char} :
      input = text.toList ++ remaining →
      Matches grammar input memory (.literal text) (.literal text) remaining
  | pattern {p : Pattern} {found : Pattern.Match} {taken : Nat} :
      p.matchFront? input = some (found, taken) →
      Matches grammar input memory (.pattern p) (.pattern found) (input.drop taken)
  | rule {r : Rule} {depth : Nat} {remaining : List Char} {value : Value} {memory' : M} :
      parse grammar depth r input memory = some (⟨remaining, .ok value⟩, memory') →
      Matches grammar input memory (.rule r) (.rule value) remaining

inductive Fails (grammar : Grammar M) (input : List Char) (memory : M) : Candidate → Prop where
  | literal {text : String} :
      (∀ remaining, input ≠ text.toList ++ remaining) →
      Fails grammar input memory (.literal text)
  | pattern {p : Pattern} :
      p.matchFront? input = none → Fails grammar input memory (.pattern p)
  | rule {r : Rule} {depth : Nat} {remaining : List Char} {failure : Failure} {memory' : M} :
      parse grammar depth r input memory = some (⟨remaining, .error failure⟩, memory') →
      Fails grammar input memory (.rule r)

structure Decides (grammar : Grammar M) (input : List Char) (memory : M)
    (candidates pre : List Candidate) (c : Candidate) (answer : Answer)
    (remaining : List Char) : Prop where
  split : ∃ post, candidates = pre ++ c :: post
  before : ∀ b ∈ pre, Fails grammar input memory b
  first : Matches grammar input memory c answer remaining

def Replies (grammar : Grammar M) (node : Node) (frame : Frame) (memory : M) (reply : Reply)
    (frame' : Frame) (memory' : M) : Prop :=
  ∃ depth, session (parse grammar depth) node frame memory = some (reply, frame', memory')

section Alone

variable {grammar : Grammar M} {input : List Char} {memory memory' : M}

theorem parse_unique {r : Rule} {depth depth' : Nat} {ended ended' : Result × M}
    (h : parse grammar depth r input memory = some ended)
    (h' : parse grammar depth' r input memory = some ended') : ended = ended' := by
  have hlarge := parse_within (Nat.le_max_left depth depth') h
  have hlarge' := parse_within (Nat.le_max_right depth depth') h'
  exact Option.some.inj (hlarge.symm.trans hlarge')

theorem Fails.not_matches {c : Candidate} (hfails : Fails grammar input memory c)
    {answer : Answer} {remaining : List Char} :
    ¬ Matches grammar input memory c answer remaining := by
  intro hmatches
  cases hfails with
  | literal hne =>
      cases hmatches with
      | literal heq => exact hne _ heq
  | pattern hnone =>
      cases hmatches with
      | pattern hsome => simp [hnone] at hsome
  | rule hfailed =>
      cases hmatches with
      | rule hparsed =>
          have hsame := congrArg (·.1.outcome) (parse_unique hfailed hparsed)
          cases hsame

theorem matches_of_attempt {depth : Nat} {c : Candidate} {answer : Answer}
    {remaining : List Char}
    (hc : attempt (parse grammar depth) input c memory = some (.ok (answer, remaining), memory')) :
    Matches grammar input memory c answer remaining := by
  rcases attempt_ok_cases hc with ⟨text, rfl, rfl, heq, _⟩ |
    ⟨p, found, taken, rfl, rfl, hfront, rfl, _⟩ | ⟨r, value, rfl, rfl, hparse⟩
  · exact .literal heq
  · exact .pattern hfront
  · exact .rule hparse

theorem fails_of_attempt {depth : Nat} {c : Candidate} {failure : Option Failure}
    (hc : attempt (parse grammar depth) input c memory = some (.error failure, memory')) :
    Fails grammar input memory c := by
  rcases attempt_error_cases hc with ⟨text, rfl, _, hne, _⟩ | ⟨p, rfl, _, hnone, _⟩ |
    ⟨r, rest, f, rfl, _, hparse⟩
  · exact .literal hne
  · exact .pattern hnone
  · exact .rule hparse

theorem fails_of_declined (honly : ∀ id, (grammar id).SessionOnly) {depth : Nat}
    {candidates : List Candidate} {failures : List Failure}
    (h : Declined (parse grammar depth) input candidates memory failures memory') :
    ∀ c ∈ candidates, Fails grammar input memory c := by
  induction h with
  | nil => simp
  | cons hc _ ih =>
      obtain ⟨rfl, _⟩ := attempt_ignores_memory (parse_ignores_memory honly depth) hc
      intro b hb
      rcases List.mem_cons.1 hb with rfl | hb
      · exact fails_of_attempt hc
      · exact ih b hb

theorem attempt_of_matches (honly : ∀ id, (grammar id).SessionOnly) {c : Candidate}
    {answer : Answer} {remaining : List Char}
    (h : Matches grammar input memory c answer remaining) :
    ∃ depth, attempt (parse grammar depth) input c memory =
      some (.ok (answer, remaining), memory) := by
  cases h with
  | literal heq => exact ⟨0, by simp [attempt, Text.dropLiteral?_eq_some.2 heq]⟩
  | pattern hfront => exact ⟨0, by simp [attempt, hfront]⟩
  | @rule r depth remaining value memory' hparse =>
      obtain ⟨rfl, _⟩ := parse_ignores_memory honly depth hparse
      exact ⟨depth, by simp [attempt, hparse]⟩

theorem attempt_of_fails (honly : ∀ id, (grammar id).SessionOnly) {c : Candidate}
    (h : Fails grammar input memory c) :
    ∃ depth failure, attempt (parse grammar depth) input c memory =
      some (.error failure, memory) := by
  cases h with
  | @literal text hne =>
      cases hdrop : Text.dropLiteral? text.toList input with
      | some rest => exact absurd (Text.dropLiteral?_eq_some.1 hdrop) (hne rest)
      | none => exact ⟨0, none, by simp [attempt, hdrop]⟩
  | pattern hnone => exact ⟨0, none, by simp [attempt, hnone]⟩
  | @rule r depth remaining failure memory' hparse =>
      obtain ⟨rfl, _⟩ := parse_ignores_memory honly depth hparse
      exact ⟨depth, some failure, by simp [attempt, hparse]⟩

theorem declined_of_fails (honly : ∀ id, (grammar id).SessionOnly)
    {candidates : List Candidate} (h : ∀ c ∈ candidates, Fails grammar input memory c) :
    ∃ depth failures,
      Declined (parse grammar depth) input candidates memory failures memory := by
  induction candidates with
  | nil => exact ⟨0, [], .nil⟩
  | cons c rest ih =>
      obtain ⟨depth, failure, hc⟩ := attempt_of_fails honly (h c List.mem_cons_self)
      obtain ⟨depth', failures, hrest⟩ := ih fun b hb => h b (List.mem_cons_of_mem c hb)
      have hfirst := attempt_within (parse_within (Nat.le_max_left depth depth')) hc
      have hothers := hrest.within (parse_within (Nat.le_max_right depth depth'))
      exact ⟨max depth depth', _, .cons hfirst hothers⟩

end Alone

section Request

variable {grammar : Grammar M} {node : Node} {frame frame' : Frame} {memory memory' : M}

theorem replies_ok_iff (honly : ∀ id, (grammar id).SessionOnly) (hlive : frame.failure = none)
    {answer : Answer} :
    Replies grammar node frame memory (.ok answer) frame' memory' ↔
      ∃ pre c remaining,
        Decides grammar frame.remaining memory node.candidates pre c answer remaining ∧
        frame' = frame.advance remaining ∧ memory' = memory := by
  constructor
  · rintro ⟨depth, hrun⟩
    have hignores := parse_ignores_memory honly depth
    rcases session_cases hrun with ⟨hfailed, _⟩ |
      ⟨_, pre, c, post, failures, memory₁, answer', remaining, hnode, hpre, hc, heq, hframe⟩ |
      ⟨_, _, _, heq, _⟩
    · simp [hlive] at hfailed
    · obtain rfl : answer = answer' := Except.ok.inj heq
      obtain ⟨rfl, _⟩ := hpre.ignores_memory hignores
      obtain ⟨rfl, _⟩ := attempt_ignores_memory hignores hc
      exact ⟨pre, c, remaining,
        ⟨⟨post, hnode⟩, fails_of_declined honly hpre, matches_of_attempt hc⟩, hframe, rfl⟩
    · cases heq
  · rintro ⟨pre, c, remaining, ⟨⟨post, hnode⟩, hpre, hc⟩, rfl, rfl⟩
    obtain ⟨depth, failures, hdeclined⟩ := declined_of_fails honly hpre
    obtain ⟨depth', hattempt⟩ := attempt_of_matches honly hc
    have hbefore := hdeclined.within (parse_within (Nat.le_max_left depth depth'))
    have hfirst := attempt_within (parse_within (Nat.le_max_right depth depth')) hattempt
    exact ⟨max depth depth', session_of_attempt hlive hnode hbefore hfirst⟩

theorem replies_error (honly : ∀ id, (grammar id).SessionOnly) (hlive : frame.failure = none)
    {halt : Halt} (h : Replies grammar node frame memory (.error halt) frame' memory') :
    (∀ c ∈ node.candidates, Fails grammar frame.remaining memory c) ∧
      halt = .mismatch ∧ memory' = memory ∧
      ∃ failures, frame' =
        { frame with failure := some (.mk frame.step (.unmatched node) failures) } := by
  obtain ⟨depth, hrun⟩ := h
  rcases session_cases hrun with ⟨hfailed, _⟩ | ⟨_, _, _, _, _, _, _, _, _, _, _, heq, _⟩ |
    ⟨_, failures, hnode, heq, hframe⟩
  · simp [hlive] at hfailed
  · cases heq
  · obtain ⟨hkept, _⟩ := hnode.ignores_memory (parse_ignores_memory honly depth)
    exact ⟨fails_of_declined honly hnode, Except.error.inj heq, hkept, failures, hframe⟩

theorem replies_of_fails (honly : ∀ id, (grammar id).SessionOnly) (hlive : frame.failure = none)
    (h : ∀ c ∈ node.candidates, Fails grammar frame.remaining memory c) :
    ∃ frame', Replies grammar node frame memory (.error .mismatch) frame' memory := by
  obtain ⟨depth, failures, hdeclined⟩ := declined_of_fails honly h
  exact ⟨_, depth, session_of_declined hlive hdeclined⟩

/-- Candidates that each match or fail have a first one that matches, unless
all of them fail. -/
theorem decides_or_fails {input : List Char} {candidates : List Candidate}
    (h : ∀ c ∈ candidates, Fails grammar input memory c ∨
      ∃ answer remaining, Matches grammar input memory c answer remaining) :
    (∃ pre c answer remaining,
      Decides grammar input memory candidates pre c answer remaining) ∨
    ∀ c ∈ candidates, Fails grammar input memory c := by
  induction candidates with
  | nil => exact Or.inr (by simp)
  | cons c rest ih =>
      rcases h c List.mem_cons_self with hfails | ⟨answer, remaining, hmatches⟩
      · rcases ih fun b hb => h b (List.mem_cons_of_mem c hb) with
          ⟨pre, d, answer, remaining, ⟨post, hsplit⟩, hbefore, hfirst⟩ | hrest
        · refine Or.inl ⟨c :: pre, d, answer, remaining, ⟨post, by simp [hsplit]⟩, ?_, hfirst⟩
          intro b hb
          rcases List.mem_cons.1 hb with rfl | hb
          · exact hfails
          · exact hbefore b hb
        · refine Or.inr fun b hb => ?_
          rcases List.mem_cons.1 hb with rfl | hb
          · exact hfails
          · exact hrest b hb
      · exact Or.inl ⟨[], c, answer, remaining, ⟨rest, rfl⟩, by simp, hmatches⟩

end Request

/-- Ordered choice, for a frame in which no request has failed. A request is answered just when some
candidate matches on its own, by the first that does, and the frame moves to what that one leaves;
otherwise it fails and moves nothing. It ends when each of its candidates does. The answer is the
same in any node where fewer candidates, out of the same ones, stand before the one that decides,
whatever stands behind it and however choices are grouped. -/
theorem ordered_choice (grammar : Grammar M) (honly : ∀ id, (grammar id).SessionOnly)
    (frame : Frame) (hlive : frame.failure = none) (memory : M) (node : Node) :
    (∀ answer frame' memory', Replies grammar node frame memory (.ok answer) frame' memory' ↔
      ∃ pre c remaining,
        Decides grammar frame.remaining memory node.candidates pre c answer remaining ∧
        frame' = ⟨remaining, frame.step + 1, none⟩ ∧ memory' = memory) ∧
    (∀ halt frame' memory', Replies grammar node frame memory (.error halt) frame' memory' →
      halt = .mismatch ∧ frame'.remaining = frame.remaining ∧ frame'.step = frame.step ∧
        frame'.failure.isSome = true ∧ memory' = memory) ∧
    (∀ reply frame' memory', Replies grammar node frame memory reply frame' memory' →
      ((∃ answer, reply = .ok answer) ↔ ∃ c ∈ node.candidates, ∃ answer remaining,
        Matches grammar frame.remaining memory c answer remaining)) ∧
    ((∀ c ∈ node.candidates, Fails grammar frame.remaining memory c ∨
        ∃ answer remaining, Matches grammar frame.remaining memory c answer remaining) →
      ∃ reply frame' memory', Replies grammar node frame memory reply frame' memory') ∧
    (∀ pre c answer remaining,
      Decides grammar frame.remaining memory node.candidates pre c answer remaining →
      ∀ (other : Node) (pre' post' : List Candidate), other.candidates = pre' ++ c :: post' →
        pre'.Sublist pre →
        Replies grammar other frame memory (.ok answer) ⟨remaining, frame.step + 1, none⟩
          memory) ∧
    (∀ other : Node, other.candidates = node.candidates → ∀ answer frame' memory',
      (Replies grammar other frame memory (.ok answer) frame' memory' ↔
        Replies grammar node frame memory (.ok answer) frame' memory')) := by
  have hadvance (remaining : List Char) :
      frame.advance remaining = ⟨remaining, frame.step + 1, none⟩ := by
    simp [Frame.advance, hlive]
  have hanswered (other : Node) (answer : Answer) (frame' : Frame) (memory' : M) :
      Replies grammar other frame memory (.ok answer) frame' memory' ↔
        ∃ pre c remaining,
          Decides grammar frame.remaining memory other.candidates pre c answer remaining ∧
          frame' = ⟨remaining, frame.step + 1, none⟩ ∧ memory' = memory := by
    rw [replies_ok_iff honly hlive]
    simp only [hadvance]
  refine ⟨hanswered node, ?_, ?_, ?_, ?_, ?_⟩
  · intro halt frame' memory' hreply
    obtain ⟨_, hhalt, hkept, failures, rfl⟩ := replies_error honly hlive hreply
    exact ⟨hhalt, rfl, rfl, rfl, hkept⟩
  · intro reply frame' memory' hreply
    constructor
    · rintro ⟨answer, rfl⟩
      obtain ⟨pre, c, remaining, ⟨⟨post, hsplit⟩, _, hfirst⟩, _⟩ :=
        (hanswered node answer frame' memory').1 hreply
      exact ⟨c, by simp [hsplit], answer, remaining, hfirst⟩
    · rintro ⟨c, hc, answer, remaining, hmatches⟩
      cases reply with
      | ok answer => exact ⟨answer, rfl⟩
      | error halt =>
          have hfails := (replies_error honly hlive hreply).1 c hc
          exact absurd hmatches hfails.not_matches
  · intro hends
    rcases decides_or_fails hends with ⟨pre, c, answer, remaining, hdecides⟩ | hfails
    · exact ⟨.ok answer, _, memory,
        (hanswered node answer _ memory).2 ⟨pre, c, remaining, hdecides, rfl, rfl⟩⟩
    · obtain ⟨frame', hreply⟩ := replies_of_fails honly hlive hfails
      exact ⟨_, frame', memory, hreply⟩
  · intro pre c answer remaining hdecides other pre' post' hother hsub
    refine (hanswered other answer _ memory).2 ⟨pre', c, remaining, ⟨⟨post', hother⟩, ?_, ?_⟩,
      rfl, rfl⟩
    · exact fun b hb => hdecides.before b (hsub.subset hb)
    · exact hdecides.first
  · intro other hsame answer frame' memory'
    rw [hanswered other, hanswered node, hsame]

/-- A rule that has taken a character before it gives up, and the first member
of a choice within the choice, are passed over; the shorter text behind the one
that matches is not looked at. -/
theorem ordered_choice_second_of_inner :
    let grammar : Grammar Unit := fun _ => Standard.sequence [.literal "a", .literal "x"]
    let frame : Frame := ⟨"abc".toList, 3, none⟩
    let inner : Node := .choice [.literal "b", .literal "ab"]
    (∀ id, (grammar id).SessionOnly) ∧ frame.failure = none ∧
      Replies grammar (.choice [.rule ⟨0, "ax"⟩, inner, .literal "a"]) frame ()
        (.ok (.literal "ab")) ⟨['c'], 4, none⟩ () := by
  intro grammar frame inner
  have honly (id : Nat) : (grammar id).SessionOnly := Standard.sessionOnly_sequence _
  have hchoice := ordered_choice grammar honly frame rfl ()
    (.choice [.rule ⟨0, "ax"⟩, inner, .literal "a"])
  have hparse : parse grammar 1 ⟨0, "ax"⟩ frame.remaining () =
      some (⟨['b', 'c'], .error (.mk 1 (.unmatched (.literal "x")) [])⟩, ()) := rfl
  have hrule : Fails grammar frame.remaining () (.rule ⟨0, "ax"⟩) := .rule hparse
  have hliteral : Fails grammar frame.remaining () (.literal "b") := by
    refine .literal fun remaining heq => ?_
    cases heq
  refine ⟨honly, rfl, (hchoice.1 _ _ _).2 ⟨[.rule ⟨0, "ax"⟩, .literal "b"], .literal "ab", ['c'],
    ⟨⟨[.literal "a"], rfl⟩, ?_, .literal rfl⟩, rfl, rfl⟩⟩
  intro b hb
  rcases List.mem_cons.1 hb with rfl | hb
  · exact hrule
  · obtain rfl := List.mem_singleton.1 hb
    exact hliteral

end TwoWay.Forward
