import TwoWay.Proofs.Forward.Consumption
import TwoWay.Proofs.Mismatch

/-!
What the failure of a run tells, at each place of its tree. Every failure in the
tree is that of one frame of the run. Its step counts the requests that this frame
had answered. Where no candidate of a node matched, the node is the one that the
body asked for, and below stand the failures of its rules, one for each in order,
as each of them fails by itself on the text that was left. Where the body stopped
by itself nothing stands below.
-/

namespace TwoWay

def Candidate.rule? : Candidate → Option Rule
  | .rule r => some r
  | _ => none

def Node.rules (node : Node) : List Rule := node.candidates.filterMap Candidate.rule?

/-- What the failure of a run says of the halt that its body came to. -/
def Halt.told : Halt → String
  | .rejected message => message
  | _ => Forward.strayHalt

end TwoWay

namespace TwoWay.Forward

open Body (Course Exchange answered)

variable {M : Type}

namespace Failure

theorem mem_preorderAll {level depth : Nat} {e : Failure} {failures : List Failure} :
    (level, e) ∈ preorder.preorderAll depth failures ↔
      ∃ f ∈ failures, (level, e) ∈ f.preorder depth := by
  induction failures with
  | nil => simp [preorder.preorderAll]
  | cons f rest ih => simp [preorder.preorderAll, ih]

/-- In the tree of a failure stand the failure itself and, one level deeper, the
trees of the failures nested in it. -/
theorem mem_preorder {level depth : Nat} {e f : Failure} :
    (level, e) ∈ f.preorder depth ↔
      (level = depth ∧ e = f) ∨ ∃ g ∈ f.nested, (level, e) ∈ g.preorder (depth + 1) := by
  cases f with
  | mk step cause nested =>
      rw [preorder, List.mem_cons, mem_preorderAll]
      simp [Failure.nested]

end Failure

section Declined

variable {run : Runner M} {input : List Char} {candidates : List Candidate}
  {failures : List Failure} {memory memory' : M}

theorem Declined.exists_rule (h : Declined run input candidates memory failures memory')
    {f : Failure} (hf : f ∈ failures) :
    ∃ pre q post before memory₁ rest memory₂,
      candidates = pre ++ .rule q :: post ∧
      Declined run input pre memory before memory₁ ∧
      run q input memory₁ = some (⟨rest, .error f⟩, memory₂) := by
  induction h with
  | nil => cases hf
  | @cons c others memory memory₁ memory' failure failures hc _ ih =>
      rcases List.mem_append.1 hf with hfirst | hlater
      · rcases attempt_error_cases hc with ⟨_, _, rfl, _⟩ | ⟨_, _, rfl, _⟩ |
          ⟨q, rest, g, rfl, rfl, hrun⟩
        · cases hfirst
        · cases hfirst
        · obtain rfl : f = g := by simpa using hfirst
          exact ⟨[], q, others, [], memory, rest, memory₁, rfl, .nil, hrun⟩
      · obtain ⟨pre, q, post, before, memory₂, rest, memory₃, rfl, hpre, hrun⟩ := ih hlater
        exact ⟨c :: pre, q, post, _, memory₂, rest, memory₃, rfl, .cons hc hpre, hrun⟩

/-- The failures that were met are those of the rules among the candidates, one for
each and in their order. -/
theorem Declined.failures_of_rules
    (h : Declined run input candidates memory failures memory') :
    List.Forall₂ (fun q f => ∃ memory₁ rest memory₂,
        run q input memory₁ = some (⟨rest, .error f⟩, memory₂))
      (candidates.filterMap Candidate.rule?) failures := by
  induction h with
  | nil => exact .nil
  | @cons c others memory memory₁ memory' failure failures hc _ ih =>
      rcases attempt_error_cases hc with ⟨_, rfl, rfl, _⟩ | ⟨_, rfl, rfl, _⟩ |
        ⟨q, rest, g, rfl, rfl, hrun⟩
      · exact ih
      · exact ih
      · exact .cons ⟨memory, rest, memory₁, hrun⟩ ih

end Declined

section Frame

variable {run : Runner M} {body body' : Body M Outcome} {frame frame' : Frame}
  {memory memory' : M} {log : List (Exchange Frame M)}

theorem step_of_course
    (course : Course (session run) body frame memory log body' frame' memory') :
    frame'.step = frame.step + (answered log).length := by
  induction course with
  | here => rfl
  | request hreply _ ih =>
      rcases session_cases hreply with ⟨_, rfl, rfl, _⟩ |
        ⟨_, _, _, _, _, _, _, _, _, _, _, rfl, rfl⟩ | ⟨_, _, _, rfl, rfl⟩
      · exact ih
      · have hstep (frame : Frame) (remaining : List Char) :
            (frame.advance remaining).step = frame.step + 1 := rfl
        rw [ih, Body.answered_cons_ok, List.length_cons, hstep]
        omega
      · exact ih
  | load _ ih => exact ih
  | store _ ih => exact ih

theorem answered_of_live
    (course : Course (session run) body frame memory log body' frame' memory')
    (hlive : frame'.failure = none) : ∀ y ∈ log, y.reply.isOk = true := by
  induction course with
  | here => simp
  | request hreply hrest ih =>
      rcases session_cases hreply with ⟨hfailed, _, rfl, _⟩ |
        ⟨_, _, _, _, _, _, _, _, _, _, _, rfl, _⟩ | ⟨_, _, _, _, rfl⟩
      · obtain ⟨rfl, _⟩ := Body.Refuses.course (refuses_of_failure hfailed) hrest
        simp [hlive] at hfailed
      · exact List.forall_mem_cons.2 ⟨rfl, ih hlive⟩
      · obtain ⟨rfl, _⟩ := Body.Refuses.course (refuses_of_failure rfl) hrest
        cases hlive
  | load _ ih => exact ih hlive
  | store _ ih => exact ih hlive

/-- The failure that a frame has recorded is that of the one request that had all
its candidates declined; those before it were answered, those after it refused. -/
theorem recorded_of_course {failure : Failure}
    (course : Course (session run) body frame memory log body' frame' memory')
    (hlive : frame.failure = none) (hfailed : frame'.failure = some failure) :
    ∃ before x after failures memory₁, log = before ++ x :: after ∧
      (∀ y ∈ before, y.reply.isOk = true) ∧ x.before.failure = none ∧
      x.reply = .error .mismatch ∧ (∀ y ∈ after, y.reply = .error .mismatch) ∧
      Declined run x.before.remaining x.node.candidates x.memory failures memory₁ ∧
      failure = .mk frame'.step (.unmatched x.node) failures := by
  induction course with
  | here => simp [hlive] at hfailed
  | @request node next frame frame₁ frame' memory memory₁ memory' reply log body' hreply hrest ih =>
      rcases session_cases hreply with ⟨hfailed', _⟩ |
        ⟨_, _, _, _, _, _, _, _, _, _, _, rfl, rfl⟩ | ⟨_, failures, hnode, rfl, rfl⟩
      · simp [hlive] at hfailed'
      · obtain ⟨before, x, after, failures, memory₂, rfl, hbefore, hrest'⟩ := ih hlive hfailed
        exact ⟨_ :: before, x, after, failures, memory₂, rfl,
          List.forall_mem_cons.2 ⟨rfl, hbefore⟩, hrest'⟩
      · obtain ⟨rfl, hafter⟩ := Body.Refuses.course (refuses_of_failure rfl) hrest
        exact ⟨[], _, log, failures, memory₁, rfl, by simp, hlive, rfl,
          fun y hy => (hafter y hy).1, hnode, (Option.some.inj hfailed).symm⟩
  | load _ ih => exact ih hlive hfailed
  | store _ ih => exact ih hlive hfailed

theorem finish_eq_error {outcome : Outcome} {failure : Failure}
    (h : (frame.finish outcome).outcome = .error failure) :
    frame.failure = some failure ∨
    (frame.failure = none ∧ ∃ halt, outcome = .error halt ∧
      failure = .mk frame.step (.rejected halt.told) []) := by
  unfold Frame.finish at h
  cases hfailure : frame.failure with
  | some recorded =>
      simp only [hfailure, Except.error.injEq] at h
      exact Or.inl (congrArg some h)
  | none =>
      refine Or.inr ⟨rfl, ?_⟩
      cases outcome with
      | ok value => simp [hfailure] at h
      | error halt =>
          refine ⟨halt, rfl, ?_⟩
          cases halt <;> simp only [hfailure, Except.error.injEq] at h <;> exact h.symm

end Frame

/-- The failure `e` tells how a run of the rule `q` on the text `start` went, which
had the exchanges `log` and whose body came to `outcome`. -/
structure Tells (grammar : Grammar M) (d : Nat) (q : Rule) (start : List Char) (memory : M)
    (e : Failure) (log : List (Exchange Frame M)) (outcome : Outcome) : Prop where
  course : ∃ frame, Course (session (parse grammar d)) (grammar q.id) (Frame.start start) memory
    log (.done outcome) frame memory
  step : e.step = (answered log).length
  unmatched : ∀ node, e.cause = .unmatched node →
    ∃ before x after, log = before ++ x :: after ∧ x.node = node ∧
      (∀ y ∈ before, y.reply.isOk = true) ∧ x.reply = .error .mismatch ∧
      (∀ y ∈ after, y.reply = .error .mismatch) ∧
      List.Forall₂ (fun q' f => ∃ rest, ∀ other,
          Parses grammar other q' x.before.remaining ⟨rest, .error f⟩)
        node.rules e.nested
  rejected : ∀ message, e.cause = .rejected message →
    (∀ y ∈ log, y.reply.isOk = true) ∧
      (∃ halt, outcome = .error halt ∧ message = halt.told) ∧ e.nested = []

section Tree

variable {grammar : Grammar M} {d : Nat} {q : Rule} {start rest : List Char} {memory : M}
  {e : Failure}

theorem tells_of_parse (honly : ∀ id, (grammar id).SessionOnly)
    (hparse : parse grammar (d + 1) q start memory = some (⟨rest, .error e⟩, memory)) :
    ∃ log outcome, Tells grammar d q start memory e log outcome := by
  obtain ⟨log, outcome, frame, course, hresult⟩ := course_of_parse hparse
  have hstep : frame.step = (answered log).length := by
    have hcounted := step_of_course course
    simpa [Frame.start] using hcounted
  have hfinish : (frame.finish outcome).outcome = .error e := by rw [← hresult]
  refine ⟨log, outcome, ?_⟩
  rcases finish_eq_error hfinish with hfailed | ⟨hlive, halt, rfl, rfl⟩
  · obtain ⟨before, x, after, failures, memory₁, rfl, hbefore, _, hx, hafter, hdeclined, rfl⟩ :=
      recorded_of_course course rfl hfailed
    refine ⟨⟨frame, course⟩, hstep, ?_, fun message hcause => by cases hcause⟩
    intro node hcause
    obtain rfl := Cause.unmatched.inj hcause
    refine ⟨before, x, after, rfl, rfl, hbefore, hx, hafter, ?_⟩
    refine hdeclined.failures_of_rules.imp ?_
    rintro q' f ⟨memory₂, rest', memory₃, hrun⟩
    exact ⟨rest', parses_of_parse honly hrun⟩
  · refine ⟨⟨frame, course⟩, hstep, fun node hcause => (by cases hcause), ?_⟩
    intro message hcause
    obtain rfl := Cause.rejected.inj hcause
    exact ⟨answered_of_live course hlive, ⟨halt, rfl, rfl⟩, rfl⟩

/-- By induction on the depth that is left to a frame: a failure nested in that of
the frame is the failure of a rule that was tried in it. -/
theorem opens_of_preorder {depth : Nat} {r : Rule} {input : List Char} {memory₀ memory' : M}
    (opens : Opens grammar depth r input memory₀ d q start memory) {f : Failure}
    (hparse : parse grammar d q start memory = some (⟨rest, .error f⟩, memory'))
    {level above : Nat} (hdepth : d + above = depth) (he : (level, e) ∈ f.preorder above) :
    ∃ d' q' start' memory₁ rest' memory₂, d' + 1 + level = depth ∧
      Opens grammar depth r input memory₀ (d' + 1) q' start' memory₁ ∧
      parse grammar (d' + 1) q' start' memory₁ = some (⟨rest', .error e⟩, memory₂) := by
  induction d generalizing q start memory rest f memory' above with
  | zero => simp [parse] at hparse
  | succ d ih =>
      rcases Failure.mem_preorder.1 he with ⟨rfl, rfl⟩ | ⟨g, hg, hbelow⟩
      · exact ⟨d, q, start, memory, rest, memory', hdepth, opens, hparse⟩
      · obtain ⟨log, outcome, frame, course, hresult⟩ := course_of_parse hparse
        have hfinish : (frame.finish outcome).outcome = .error f := by rw [← hresult]
        rcases finish_eq_error hfinish with hfailed | ⟨_, _, _, rfl⟩
        · obtain ⟨before, x, after, failures, memory₁, rfl, _, hlive, _, _, hdeclined, rfl⟩ :=
            recorded_of_course course rfl hfailed
          obtain ⟨pre, q', post, failures', memory₂, rest', memory₃, hnode, hpre, hrun⟩ :=
            hdeclined.exists_rule hg
          obtain ⟨next, _, hrequest, _, _⟩ := course.split
          exact ih (.nested opens hrequest hlive hnode hpre) hrun (by omega) hbelow
        · cases hg

theorem Opens.memory_eq (honly : ∀ id, (grammar id).SessionOnly) {depth : Nat} {r : Rule}
    {input : List Char} {memory' : M}
    (opens : Opens grammar depth r input memory d q start memory') : memory' = memory := by
  induction opens with
  | own => rfl
  | @nested d q _ _ _ _ _ _ _ _ _ _ _ _ _ course _ _ hpre ih =>
      have hignores := parse_ignores_memory honly d
      have hcourse := course.memory_eq (session_ignores_memory hignores) (honly q.id)
      exact (hpre.ignores_memory hignores).1.trans (hcourse.trans ih)

theorem frame_of_preorder (honly : ∀ id, (grammar id).SessionOnly) {depth : Nat} {r : Rule}
    {input : List Char} (opens : Opens grammar depth r input memory d q start memory)
    {f : Failure} (hparse : parse grammar d q start memory = some (⟨rest, .error f⟩, memory))
    {level above : Nat} (hdepth : d + above = depth) (he : (level, e) ∈ f.preorder above) :
    ∃ d' q' start' rest', d' + 1 + level = depth ∧
      Opens grammar depth r input memory (d' + 1) q' start' memory ∧
      parse grammar (d' + 1) q' start' memory = some (⟨rest', .error e⟩, memory) := by
  obtain ⟨d', q', start', memory₁, rest', memory₂, hlevel, hopens, hfailed⟩ :=
    opens_of_preorder opens hparse hdepth he
  obtain rfl := hopens.memory_eq honly
  obtain ⟨rfl, _⟩ := parse_ignores_memory honly (d' + 1) hfailed
  exact ⟨d', q', start', rest', hlevel, hopens, hfailed⟩

end Tree

/-- The tree of a failed parse is exact at each place. A failure at some level is that of a frame of
the run so many rules deep, and what its rule fails with by itself on the frame's text; its step
counts the requests that were answered. If no candidate of a node matched, this is the node asked
for, and nested are the failures of its rules, in order, each as by itself on the text that was
left. If the body came to a halt of its own, nothing is nested. -/
theorem failure_tree_exact {grammar : Grammar M} (honly : ∀ id, (grammar id).SessionOnly)
    {depth : Nat} {r : Rule} {input remaining : List Char} {memory memory' : M}
    {failure : Failure}
    (hparse : parse grammar depth r input memory = some (⟨remaining, .error failure⟩, memory'))
    {level : Nat} {e : Failure} (he : (level, e) ∈ failure.preorder 0) :
    ∃ d q start rest log outcome, d + 1 + level = depth ∧
      Opens grammar depth r input memory (d + 1) q start memory ∧
      (∀ other, Parses grammar other q start ⟨rest, .error e⟩) ∧
      Tells grammar d q start memory e log outcome := by
  obtain ⟨rfl, _⟩ := parse_ignores_memory honly depth hparse
  obtain ⟨d, q, start, rest, hdepth, opens, hfailed⟩ :=
    frame_of_preorder honly .own hparse (Nat.add_zero depth) he
  obtain ⟨log, outcome, htells⟩ := tells_of_parse honly hfailed
  exact ⟨d, q, start, rest, log, outcome, hdepth, opens, parses_of_parse honly hfailed, htells⟩

/-- A request for a choice within a choice, where one rule finds no text and the other
turns down what it has taken; the text that is offered beside them has no failure. -/
theorem failure_tree_exact_rejected :
    let inner : Node := .choice [.rule ⟨1, "one"⟩, .literal "x"]
    let wanted : Node := .choice [inner, .rule ⟨2, "two"⟩]
    let grammar : Grammar Unit := fun
      | 0 => Standard.sequence [.literal "a", wanted]
      | 1 => Standard.sequence [.literal "b", .literal "c"]
      | _ => do
          let _ ← Body.ask (.literal "b")
          return .error (.rejected "no")
    let turnedDown : Failure := .mk 1 (.rejected "no") []
    let failure : Failure :=
      .mk 1 (.unmatched wanted) [.mk 1 (.unmatched (.literal "c")) [], turnedDown]
    (∀ id, (grammar id).SessionOnly) ∧
      parse grammar 2 ⟨0, "outer"⟩ "abd".toList () = some (⟨['b', 'd'], .error failure⟩, ()) ∧
      (1, turnedDown) ∈ failure.preorder 0 ∧
      ∃ d q start log outcome, d + 1 + 1 = 2 ∧
        Opens grammar 2 ⟨0, "outer"⟩ "abd".toList () (d + 1) q start () ∧
        Tells grammar d q start () turnedDown log outcome := by
  intro inner wanted grammar turnedDown failure
  have honly (id : Nat) : (grammar id).SessionOnly := by
    rcases id with _ | _ | id
    · exact Standard.sessionOnly_sequence _
    · exact Standard.sessionOnly_sequence _
    · exact fun _ => trivial
  have hparse : parse grammar 2 ⟨0, "outer"⟩ "abd".toList () =
      some (⟨['b', 'd'], .error failure⟩, ()) := rfl
  have hnested : (1, turnedDown) ∈ failure.preorder 0 :=
    Failure.mem_preorder.2 (Or.inr ⟨turnedDown, by simp [failure, Failure.nested],
      Failure.mem_preorder.2 (Or.inl ⟨rfl, rfl⟩)⟩)
  obtain ⟨d, q, start, _, log, outcome, hdepth, opens, _, htells⟩ :=
    failure_tree_exact honly hparse hnested
  exact ⟨honly, hparse, hnested, d, q, start, log, outcome, hdepth, opens, htells⟩

end TwoWay.Forward
