import TwoWay.Forward.Diagnostic
import TwoWay.Proofs.Forward.Attempt
import TwoWay.Proofs.Regex.Span

/-!
What a run takes from its text. Each answered request of a frame took a piece:
the text of a literal, the match of a pattern that begins at the front, or all
that was taken in the frame of a rule. The pieces, in order, and what the frame
has left are the text that it began with, at every moment of every frame.
-/

namespace TwoWay.Forward

open Body (Course Exchange answered)

variable {M : Type}

/-- A candidate has decided an exchange: those before it were declined, and it
gave the answer, having been tried with the memory `memory`. -/
inductive Decided (run : Runner M) (e : Exchange Frame M) (c : Candidate) (memory : M)
    (answer : Answer) : Prop where
  | intro {pre post : List Candidate} {failures : List Failure} {remaining : List Char}
      {memory' : M} :
      e.node.candidates = pre ++ c :: post →
      Declined run e.before.remaining pre e.memory failures memory →
      attempt run e.before.remaining c memory = some (.ok (answer, remaining), memory') →
      e.reply = .ok answer →
      Decided run e c memory answer

mutual

/-- The piece of its frame's text that an answered exchange took. -/
inductive Took (grammar : Grammar M) : (depth : Nat) → Exchange Frame M → List Char → Prop where
  | literal {depth : Nat} {e : Exchange Frame M} {text : String} {memory : M} {answer : Answer} :
      Decided (parse grammar depth) e (.literal text) memory answer →
      Took grammar depth e text.toList
  | pattern {depth : Nat} {e : Exchange Frame M} {p : Pattern} {memory : M}
      {found : Pattern.Match} :
      Decided (parse grammar depth) e (.pattern p) memory (.pattern found) →
      Took grammar depth e (p.took found)
  | rule {depth : Nat} {e : Exchange Frame M} {r : Rule} {memory memory' : M} {value : Value}
      {log : List (Exchange Frame M)} {frame : Frame} {taken : List Char} :
      Decided (parse grammar (depth + 1)) e (.rule r) memory (.rule value) →
      Course (session (parse grammar depth)) (grammar r.id) (Frame.start e.before.remaining)
        memory log (.done (.ok value)) frame memory' →
      TookAll grammar depth (answered log) taken →
      Took grammar (depth + 1) e taken

inductive TookAll (grammar : Grammar M) :
    (depth : Nat) → List (Exchange Frame M) → List Char → Prop where
  | nil {depth : Nat} : TookAll grammar depth [] []
  | cons {depth : Nat} {e : Exchange Frame M} {log : List (Exchange Frame M)}
      {piece taken : List Char} :
      Took grammar depth e piece → TookAll grammar depth log taken →
      TookAll grammar depth (e :: log) (piece ++ taken)

end

/-- The frames of a run: its own, and one for each rule that is tried in a frame
of the run, whether the rule comes to a value or not. The frame of a rule on a
text is given with the depth that is left to it. -/
inductive Opens (grammar : Grammar M) (depth : Nat) (r : Rule) (input : List Char) (memory : M) :
    Nat → Rule → List Char → M → Prop where
  | own : Opens grammar depth r input memory depth r input memory
  | nested {d : Nat} {q q' : Rule} {start : List Char} {memory₁ memory₂ memory₃ : M}
      {log : List (Exchange Frame M)} {node : Node} {next : Reply → Body M Outcome}
      {frame : Frame} {pre post : List Candidate} {failures : List Failure} :
      Opens grammar depth r input memory (d + 1) q start memory₁ →
      Course (session (parse grammar d)) (grammar q.id) (Frame.start start) memory₁ log
        (.request node next) frame memory₂ →
      frame.failure = none →
      node.candidates = pre ++ .rule q' :: post →
      Declined (parse grammar d) frame.remaining pre memory₂ failures memory₃ →
      Opens grammar depth r input memory d q' frame.remaining memory₃

/-- Whether an exchange moved its frame past the piece that it took, if it was
answered, and left it where it was, if not. -/
def Accounted (grammar : Grammar M) (depth : Nat) (e : Exchange Frame M) : Prop :=
  match e.reply with
  | .ok _ => ∃ piece, Took grammar depth e piece ∧
      e.before.remaining = piece ++ e.after.remaining
  | .error _ => e.after.remaining = e.before.remaining

def AllAccounted (grammar : Grammar M) (depth : Nat) : Prop :=
  ∀ ⦃node frame memory reply frame' memory'⦄,
    session (parse grammar depth) node frame memory = some (reply, frame', memory') →
    Accounted grammar depth ⟨node, frame, memory, reply, frame'⟩

section Accounts

variable {grammar : Grammar M} {depth : Nat}

theorem course_accounted {body body' : Body M Outcome} {frame frame' : Frame}
    {memory memory' : M} {log : List (Exchange Frame M)} (hall : AllAccounted grammar depth)
    (course : Course (session (parse grammar depth)) body frame memory log body' frame'
      memory') :
    (∃ taken, TookAll grammar depth (answered log) taken ∧
      frame.remaining = taken ++ frame'.remaining) ∧
    ∀ e ∈ answered log, Accounted grammar depth e := by
  induction course with
  | here => exact ⟨⟨[], .nil, rfl⟩, by simp⟩
  | @request node next frame frame₁ frame' memory memory₁ memory' reply log body' hreply _ ih =>
      obtain ⟨⟨taken, htook, hremaining⟩, hrest⟩ := ih
      have hfirst := hall hreply
      cases reply with
      | ok answer =>
          obtain ⟨piece, hpiece, hbefore⟩ := hfirst
          rw [Body.answered_cons_ok]
          refine ⟨⟨piece ++ taken, .cons hpiece htook, ?_⟩, ?_⟩
          · rw [List.append_assoc, ← hremaining]
            exact hbefore
          · intro e he
            rcases List.mem_cons.1 he with rfl | he
            · exact ⟨piece, hpiece, hbefore⟩
            · exact hrest e he
      | error halt =>
          have hsame : frame₁.remaining = frame.remaining := hfirst
          rw [Body.answered_cons_error]
          exact ⟨⟨taken, htook, hsame ▸ hremaining⟩, hrest⟩
  | load _ ih => exact ih
  | store _ ih => exact ih

theorem took_of_attempt (hinner : ∀ d, depth = d + 1 → AllAccounted grammar d)
    {e : Exchange Frame M} {c : Candidate} {answer : Answer} {remaining : List Char}
    {memory memory' : M} (hdecided : Decided (parse grammar depth) e c memory answer)
    (hc : attempt (parse grammar depth) e.before.remaining c memory =
      some (.ok (answer, remaining), memory')) :
    ∃ piece, Took grammar depth e piece ∧ e.before.remaining = piece ++ remaining := by
  rcases attempt_ok_cases hc with ⟨text, rfl, rfl, heq, _⟩ |
    ⟨p, found, taken, rfl, rfl, hfront, rfl, _⟩ | ⟨r, value, rfl, rfl, hparse⟩
  · exact ⟨text.toList, .literal hdecided, heq⟩
  · refine ⟨p.took found, .pattern hdecided, ?_⟩
    rw [← (Pattern.take_of_matchFront? hfront).2, List.take_append_drop]
  · cases depth with
    | zero => simp [parse] at hparse
    | succ d =>
        obtain ⟨log, outcome, frame, course, hresult⟩ := course_of_parse hparse
        have hended : (frame.finish outcome).outcome = .ok value := by rw [← hresult]
        obtain ⟨_, rfl⟩ := finish_eq_ok.1 hended
        have hleft : remaining = frame.remaining := by
          rw [← finish_remaining frame (.ok value), ← hresult]
        obtain ⟨⟨taken, htook, hremaining⟩, _⟩ := course_accounted (hinner d rfl) course
        refine ⟨taken, .rule hdecided course htook, ?_⟩
        rw [hleft]
        exact hremaining

theorem allAccounted_of_inner (hinner : ∀ d, depth = d + 1 → AllAccounted grammar d) :
    AllAccounted grammar depth := by
  intro node frame memory reply frame' memory' hreply
  rcases session_cases hreply with ⟨_, rfl, rfl, rfl⟩ |
    ⟨_, pre, c, post, failures, memory₁, answer, remaining, hnode, hpre, hc, rfl, rfl⟩ |
    ⟨_, failures, _, rfl, rfl⟩
  · rfl
  · exact took_of_attempt hinner (.intro hnode hpre hc rfl) hc
  · rfl

theorem allAccounted (grammar : Grammar M) (depth : Nat) : AllAccounted grammar depth := by
  induction depth with
  | zero => exact allAccounted_of_inner fun d hd => absurd hd (Nat.succ_ne_zero d).symm
  | succ depth ih =>
      refine allAccounted_of_inner fun d hd => ?_
      obtain rfl : depth = d := Nat.succ.inj hd
      exact ih

end Accounts

theorem Opens.suffix {grammar : Grammar M} {depth d : Nat} {r q : Rule}
    {input start : List Char} {memory memory' : M}
    (opens : Opens grammar depth r input memory d q start memory') : start <:+ input := by
  induction opens with
  | own => exact List.suffix_refl input
  | nested _ course _ _ _ ih =>
      obtain ⟨⟨taken, _, hremaining⟩, _⟩ := course_accounted (allAccounted grammar _) course
      exact List.IsSuffix.trans ⟨taken, hremaining.symm⟩ ih

theorem diagnose_of_append {result : Result} {input taken : List Char} {failure : Failure}
    (hinput : input = taken ++ result.remaining) (hfailed : result.outcome = .error failure)
    (name : String) :
    ∃ report, result.diagnose name (String.ofList input) = .error report ∧
      report.failure = failure ∧ report.offset = Text.byteLength taken ∧
      Text.afterBytes? report.offset input = some result.remaining := by
  have hoffset : Text.byteLength input - Text.byteLength result.remaining =
      Text.byteLength taken := by
    rw [hinput, Text.byteLength_append]
    omega
  have hafter := Text.afterBytes?_byteLength taken result.remaining
  rw [← hinput] at hafter
  refine ⟨⟨name, String.ofList input, Text.byteLength taken, failure⟩, ?_, rfl, rfl, hafter⟩
  simp only [Result.diagnose, hfailed, String.toList_ofList, hoffset]

/-- At every moment of every frame of a run the text that the frame began with is the pieces that
its answered requests took, in order and cut at the ends of characters, and then what it has left,
which ends the text of the run. A run that ends leaves what its frame has left, and the report of
a failure stands at the length of the pieces in bytes. -/
theorem consumption_accounted (grammar : Grammar M) (depth : Nat) (r : Rule)
    (input : List Char) (memory : M) :
    (∀ {d : Nat} {q : Rule} {start : List Char} {memory₁ memory₂ : M}
        {log : List (Exchange Frame M)} {body : Body M Outcome} {frame : Frame},
      Opens grammar depth r input memory (d + 1) q start memory₁ →
      Course (session (parse grammar d)) (grammar q.id) (Frame.start start) memory₁ log body
        frame memory₂ →
      (∃ taken, TookAll grammar d (answered log) taken ∧ start = taken ++ frame.remaining) ∧
      frame.remaining <:+ input ∧
      ∀ e ∈ answered log, ∃ piece, Took grammar d e piece ∧
        Text.afterBytes? (Text.byteLength piece) e.before.remaining =
          some e.after.remaining) ∧
    (∀ {result : Result} {memory' : M}, parse grammar depth r input memory =
        some (result, memory') →
      ∃ d log outcome frame taken, depth = d + 1 ∧
        Course (session (parse grammar d)) (grammar r.id) (Frame.start input) memory log
          (.done outcome) frame memory' ∧
        result = frame.finish outcome ∧
        TookAll grammar d (answered log) taken ∧ input = taken ++ result.remaining ∧
        ∀ failure name, result.outcome = .error failure →
          ∃ report, result.diagnose name (String.ofList input) = .error report ∧
            report.failure = failure ∧ report.offset = Text.byteLength taken ∧
            Text.afterBytes? report.offset input = some result.remaining) := by
  constructor
  · intro d q start memory₁ memory₂ log body frame opens course
    obtain ⟨⟨taken, htook, hremaining⟩, hall⟩ :=
      course_accounted (allAccounted grammar d) course
    refine ⟨⟨taken, htook, hremaining⟩, ?_, ?_⟩
    · exact List.IsSuffix.trans ⟨taken, hremaining.symm⟩ opens.suffix
    · intro e he
      have haccounted := hall e he
      have hanswered : e.reply.isOk = true := (List.mem_filter.1 he).2
      unfold Accounted at haccounted
      cases hreply : e.reply with
      | error halt => simp [hreply, Except.isOk, Except.toBool] at hanswered
      | ok answer =>
          rw [hreply] at haccounted
          obtain ⟨piece, hpiece, hbefore⟩ := haccounted
          exact ⟨piece, hpiece, by rw [hbefore, Text.afterBytes?_byteLength]⟩
  · intro result memory' hparse
    cases depth with
    | zero => simp [parse] at hparse
    | succ d =>
        obtain ⟨log, outcome, frame, course, rfl⟩ := course_of_parse hparse
        obtain ⟨⟨taken, htook, hremaining⟩, _⟩ :=
          course_accounted (allAccounted grammar d) course
        have hinput : input = taken ++ (frame.finish outcome).remaining := by
          rw [finish_remaining]
          exact hremaining
        refine ⟨d, log, outcome, frame, taken, rfl, course, rfl, htook, hinput, ?_⟩
        intro failure name hfailed
        exact diagnose_of_append hinput hfailed name

end TwoWay.Forward
