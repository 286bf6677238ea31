import TwoWay.Grammar.Standard
import TwoWay.Proofs.Backward.Choice

/-!
Whole inversions of two grammars that ask for different nodes. One of them is got from the
other by an edit: the node that a body asks for is replaced, and which one it becomes may
depend on the rule and on the replies that the body has had. What the bodies do with their
replies is the same in both.

When each edit spares what decides its request then both inversions go on in step, request by
request and rule by rule, and come to the same outcome. The edited grammar does not try the
rules that it has lost; what it does try, it tries from the same draft.
-/

namespace TwoWay

namespace Body

variable {σ M α : Type}

/-- The body that asks for other nodes: `change` says which, of the replies so far and the node
that is asked for. -/
def edit (change : List Reply → Node → Node) : Body M α → Body M α
  | .done a => .done a
  | .request node next =>
      .request (change [] node) fun reply => (next reply).edit fun past => change (reply :: past)
  | .load next => .load fun memory => (next memory).edit change
  | .store memory next => .store memory (next.edit change)
  | .stuck => .stuck

theorem run_edit {session other : Session σ M} {change : List Reply → Node → Node}
    (hsession : ∀ past node, other (change past node) = session node)
    {body : Body M α} {state : σ} {memory : M} :
    (body.edit change).run other state memory = body.run session state memory := by
  induction body generalizing change state memory with
  | done a => rfl
  | request node next ih =>
      simp only [edit, Body.run, hsession]
      cases session node state memory with
      | none => rfl
      | some found =>
          obtain ⟨reply, state₁, memory₁⟩ := found
          exact ih reply fun past node => hsession (reply :: past) node
  | load next ih => exact ih memory hsession
  | store stored next ih => exact ih hsession
  | stuck => rfl

end Body

def Grammar.edit {M : Type} (grammar : Grammar M) (change : Nat → List Reply → Node → Node) :
    Grammar M :=
  fun id => (grammar id).edit (change id)

namespace Backward

open Body (Course Exchange)

variable {M : Type}

theorem synthesize_regrouped {grammar : Grammar M} {needle : Needle}
    {change : Nat → List Reply → Node → Node}
    (hsame : ∀ id past node, (change id past node).candidates = node.candidates) (depth : Nat) :
    synthesize (grammar.edit change) needle depth = synthesize grammar needle depth := by
  induction depth with
  | zero => rfl
  | succ depth ih =>
      funext r draft memory
      have hsession (past : List Reply) (node : Node) :
          session (synthesize (grammar.edit change) needle depth) (change r.id past node) =
            session (synthesize grammar needle depth) node := by
        unfold session
        rw [ih, hsame]
      have hbody : (grammar.edit change r.id).run
          (session (synthesize (grammar.edit change) needle depth)) ⟨draft, false⟩ memory =
            (grammar r.id).run (session (synthesize grammar needle depth)) ⟨draft, false⟩ memory :=
        Body.run_edit hsession
      rw [synthesize_succ, synthesize_succ, hbody]

section Edited

variable {grammar : Grammar M} {needle : Needle} {depth : Nat} {r : Rule} {draft : Draft}
  {memory : M} {change : Nat → List Reply → Node → Node}

def EditSpares (grammar : Grammar M) (needle : Needle) (depth : Nat) (r : Rule) (draft : Draft)
    (memory : M) (change : Nat → List Reply → Node → Node) : Prop :=
  ∀ {d : Nat} {q : Rule} {start : Draft} {memory₁ memory₂ : M} {log : List (Exchange Frame M)}
      {node : Node} {next : Reply → Body M Outcome} {frame : Frame},
    Opens grammar needle depth r draft memory (d + 1) q start memory₁ →
    Course (session (synthesize grammar needle d)) (grammar q.id) ⟨start, false⟩ memory₁ log
      (.request node next) frame memory₂ →
    frame.draft.resolved = false → frame.halted = false →
    Spares grammar needle frame.draft memory₂ node (change q.id (log.map (·.reply)) node)

/-- Whether the rules that an inversion tries at some depth end in the edited grammar as they
do in the first. -/
def EndsAlike (grammar : Grammar M) (needle : Needle) (depth : Nat) (r : Rule) (draft : Draft)
    (memory : M) (change : Nat → List Reply → Node → Node) (d : Nat) : Prop :=
  ∀ {q : Rule} {start : Draft} {memory₁ : M} {ended : Ending × Draft × M},
    Opens grammar needle depth r draft memory d q start memory₁ →
    synthesize grammar needle d q start memory₁ = some ended →
    synthesize (grammar.edit change) needle d q start memory₁ = some ended

variable {d : Nat} {q : Rule} {start : Draft} {memory₁ memory₂ memory₃ : M}
  {log : List (Exchange Frame M)} {node : Node} {next : Reply → Body M Outcome}
  {body body' : Body M Outcome} {frame frame' : Frame}

theorem attempt_edited (halike : EndsAlike grammar needle depth r draft memory change d)
    (opens : Opens grammar needle depth r draft memory (d + 1) q start memory₁)
    (course : Course (session (synthesize grammar needle d)) (grammar q.id) ⟨start, false⟩ memory₁
      log (.request node next) frame memory₂)
    (hopen : frame.draft.resolved = false) (hlive : frame.halted = false)
    {pre post : List Candidate} {c : Candidate} (hnode : node.candidates = pre ++ c :: post)
    (hpre : ∀ b ∈ pre, attempt (synthesize grammar needle d) b frame.draft memory₂ =
      some (none, frame.draft, memory₂))
    {found : Option Reply × Draft × M}
    (hc : attempt (synthesize grammar needle d) c frame.draft memory₂ = some found) :
    attempt (synthesize (grammar.edit change) needle d) c frame.draft memory₂ = some found := by
  apply attempt_of_rule _ hc
  rintro q' ended rfl hq'
  exact halike (.nested opens course hopen hlive hnode (passed_of_each hpre)) hq'

theorem passed_edited (halike : EndsAlike grammar needle depth r draft memory change d)
    (opens : Opens grammar needle depth r draft memory (d + 1) q start memory₁)
    (course : Course (session (synthesize grammar needle d)) (grammar q.id) ⟨start, false⟩ memory₁
      log (.request node next) frame memory₂)
    (hopen : frame.draft.resolved = false) (hlive : frame.halted = false)
    {pre post kept : List Candidate} (hnode : node.candidates = pre ++ post)
    (hpre : ∀ b ∈ pre, attempt (synthesize grammar needle d) b frame.draft memory₂ =
      some (none, frame.draft, memory₂))
    (hsub : kept.Sublist pre) :
    Passed (synthesize (grammar.edit change) needle d) kept frame.draft memory₂ frame.draft
      memory₂ := by
  apply passed_of_each
  intro b hb
  obtain ⟨first, rest, rfl⟩ := List.append_of_mem (hsub.subset hb)
  have hsplit : node.candidates = first ++ b :: (rest ++ post) := by simp [hnode]
  have hfirst := fun a ha => hpre a (List.mem_append_left (b :: rest) ha)
  exact attempt_edited halike opens course hopen hlive hsplit hfirst (hpre b (by simp))

section Step

variable (honly : ∀ id, (grammar id).SessionOnly)
  (hspares : EditSpares grammar needle depth r draft memory change)

include honly hspares

/-- The step: a request of the first inversion, and what the edited body asks for in its place,
have the same reply and leave the same frame. -/
theorem session_edited (halike : EndsAlike grammar needle depth r draft memory change d)
    (opens : Opens grammar needle depth r draft memory (d + 1) q start memory₁)
    (course : Course (session (synthesize grammar needle d)) (grammar q.id) ⟨start, false⟩ memory₁
      log (.request node next) frame memory₂)
    {reply : Reply}
    (hreply : session (synthesize grammar needle d) node frame memory₂ =
      some (reply, frame', memory₃)) :
    session (synthesize (grammar.edit change) needle d)
      (change q.id (log.map (·.reply)) node) frame memory₂ = some (reply, frame', memory₃) := by
  have hatomic := synthesize_atomic grammar needle d
  have hignores := synthesize_ignores_memory honly needle d
  rcases session_cases hreply with ⟨hresolved, rfl, rfl, rfl⟩ | ⟨hopen, hhalted, rfl, rfl, rfl⟩ |
    ⟨hopen, hlive, pre, c, post, draft₁, memory₄, draft₂, hnode, hpre, hc, rfl⟩ |
    ⟨hopen, hlive, draft₁, hpassed, rfl, rfl⟩
  · exact refuses_of_resolved hresolved _ _
  · exact refuses_of_halted hopen hhalted _ _
  · obtain ⟨hdraft, hmemory, heach⟩ := hpre.each hatomic hignores hopen
    rw [hdraft, hmemory] at hc
    have hdecides : Decides grammar needle frame.draft memory₂ node.candidates pre c reply
        draft₂ :=
      ⟨⟨post, hnode⟩, fails_of_passed honly hopen hpre, does_of_attempt hc⟩
    obtain ⟨pre', post', hother, hsub⟩ := (hspares opens course hopen hlive).decided hdecides
    -- What is left of the candidates before the one that decides was tried in the first
    -- inversion too, and from the same draft.
    have hbefore := passed_edited halike opens course hopen hlive hnode heach hsub
    have hdecided := attempt_edited halike opens course hopen hlive hnode heach hc
    exact session_of_attempt hopen hlive hother hbefore hdecided
  · obtain ⟨rfl, rfl, heach⟩ := hpassed.each hatomic hignores hopen
    have hsub := (hspares opens course hopen hlive).undecided (fails_of_passed honly hopen hpassed)
    have hnode : node.candidates = node.candidates ++ [] := (List.append_nil _).symm
    have hothers := passed_edited halike opens course hopen hlive hnode heach hsub
    exact session_of_passed hopen hlive hothers

/-- The run, from any moment of a frame on. By induction on its course: the edited body goes
through the same replies and frames. -/
theorem course_edited (halike : EndsAlike grammar needle depth r draft memory change d)
    (opens : Opens grammar needle depth r draft memory (d + 1) q start memory₁)
    {past : List (Exchange Frame M)}
    (hpast : Course (session (synthesize grammar needle d)) (grammar q.id) ⟨start, false⟩ memory₁
      past body frame memory₂)
    (course : Course (session (synthesize grammar needle d)) body frame memory₂ log body' frame'
      memory₃) :
    ∃ log', Course (session (synthesize (grammar.edit change) needle d))
        (body.edit fun replies => change q.id (past.map (·.reply) ++ replies)) frame memory₂ log'
        (body'.edit fun replies => change q.id ((past ++ log).map (·.reply) ++ replies)) frame'
        memory₃ ∧
      log'.map (fun x => (x.before, x.reply, x.after)) =
        log.map fun x => (x.before, x.reply, x.after) := by
  induction course generalizing past with
  | here =>
      refine ⟨[], ?_, rfl⟩
      simp only [List.append_nil]
      exact .here
  | @request node next frame frame₁ frame' memory₂ memory₄ memory₃ reply log body' hreply _ ih =>
      have hsame := session_edited honly hspares halike opens hpast hreply
      obtain ⟨log', hcourse, hlog⟩ := ih (hpast.trans (.request hreply .here))
      simp only [List.append_assoc, List.map_append, List.map_cons, List.map_nil,
        List.cons_append, List.nil_append] at hcourse
      refine ⟨⟨change q.id (past.map (·.reply)) node, frame, memory₂, reply, frame₁⟩ :: log',
        ?_, ?_⟩
      · simp only [Body.edit, List.append_nil, List.map_append, List.map_cons, List.append_assoc,
          List.cons_append]
        exact .request hsame hcourse
      · simp only [List.map_cons, hlog]
  | load _ ih =>
      obtain ⟨log', hcourse, hlog⟩ := ih (by simpa using hpast.trans (.load .here))
      exact ⟨log', .load hcourse, hlog⟩
  | store _ ih =>
      obtain ⟨log', hcourse, hlog⟩ := ih (by simpa using hpast.trans (.store .here))
      exact ⟨log', .store hcourse, hlog⟩

/-- By induction on the depth: the rules that a frame tries end alike, so its body comes to the
same end with the same frame. -/
theorem endsAlike (d : Nat) : EndsAlike grammar needle depth r draft memory change d := by
  induction d with
  | zero =>
      intro q start memory₁ ended _ hended
      simp [synthesize] at hended
  | succ d ih =>
      rintro q start memory₁ ⟨ending, draft', memory₂⟩ opens hended
      obtain ⟨outcome, frame, hbody, hfinish⟩ := synthesize_succ_eq_some.1 hended
      obtain ⟨log, course⟩ := Body.course_of_run hbody
      obtain ⟨log', hcourse, _⟩ := course_edited honly hspares ih opens .here course
      refine synthesize_succ_eq_some.2 ⟨outcome, frame, ?_, hfinish⟩
      exact hcourse.run_eq

end Step

end Edited

/-- Ordered choice in an inversion whose bodies act through their sessions alone. A request of a
live frame comes to what the first candidate that is not a rule that fails makes of the draft on
its own; if there is none, the frame is marked. Edits of what bodies ask for that spare what
decides each request, regrouping among them, change no outcome, and no frame's replies, components
and slots. -/
theorem ordered_choice_inverted (grammar : Grammar M) (honly : ∀ id, (grammar id).SessionOnly)
    (needle : Needle) :
    (∀ (node : Node) (frame : Frame) (memory : M),
      frame.draft.resolved = false → frame.halted = false →
      (∀ reply frame' memory', Replies grammar needle node frame memory reply frame' memory' ↔
        memory' = memory ∧
        ((∃ pre c draft',
            Decides grammar needle frame.draft memory node.candidates pre c reply draft' ∧
            frame' = ⟨draft', false⟩) ∨
          ((∀ c ∈ node.candidates, Fails grammar needle frame.draft memory c) ∧
            reply = .error .mismatch ∧ frame' = ⟨frame.draft, true⟩))) ∧
      ∀ other, Spares grammar needle frame.draft memory node other →
        ∀ reply frame' memory', Replies grammar needle node frame memory reply frame' memory' →
          Replies grammar needle other frame memory reply frame' memory') ∧
    (∀ (change : Nat → List Reply → Node → Node) (depth : Nat) (r : Rule) (memory : M),
      EditSpares grammar needle depth r .empty memory change →
      (∀ outcome memory', invert grammar depth needle r memory = some (outcome, memory') →
        invert (grammar.edit change) depth needle r memory = some (outcome, memory')) ∧
      ∀ {d : Nat} {q : Rule} {start : Draft} {memory₁ memory₂ : M}
          {log : List (Exchange Frame M)} {body : Body M Outcome} {frame : Frame},
        Opens grammar needle depth r .empty memory (d + 1) q start memory₁ →
        Course (session (synthesize grammar needle d)) (grammar q.id) ⟨start, false⟩ memory₁ log
          body frame memory₂ →
        ∃ log', Course (session (synthesize (grammar.edit change) needle d))
            (grammar.edit change q.id) ⟨start, false⟩ memory₁ log'
            (body.edit fun replies => change q.id (log.map (·.reply) ++ replies)) frame memory₂ ∧
          log'.map (fun x => (x.before, x.reply, x.after)) =
            log.map fun x => (x.before, x.reply, x.after)) ∧
    ∀ change : Nat → List Reply → Node → Node,
      (∀ id replies node, (change id replies node).candidates = node.candidates) →
      ∀ depth r memory,
        EditSpares grammar needle depth r .empty memory change ∧
        invert (grammar.edit change) depth needle r memory =
          invert grammar depth needle r memory := by
  refine ⟨?_, ?_, ?_⟩
  · intro node frame memory hopen hlive
    constructor
    · intro reply frame' memory'
      exact replies_iff honly hopen hlive
    · intro other hspares reply frame' memory' hreply
      exact hspares.replies honly hopen hlive hreply
  · intro change depth r memory hspares
    constructor
    · intro outcome memory' houtcome
      obtain ⟨ending, draft, hended, heq⟩ := invert_eq_some.1 houtcome
      have hedited := endsAlike honly hspares depth .own hended
      exact invert_eq_some.2 ⟨ending, draft, hedited, heq⟩
    · intro d q start memory₁ memory₂ log body frame opens course
      exact course_edited honly hspares (endsAlike honly hspares d) opens .here course
  · intro change hsame depth r memory
    constructor
    · intro d q start memory₁ memory₂ log node next frame _ _ _ _
      exact .of_candidates_eq (hsame q.id _ node)
    · unfold invert
      rw [synthesize_regrouped hsame]

/-- A rule that reserves a component and fails is left out of the first choice of a rule, the
member of an inner choice that decides is taken out of it, and the one behind that is changed.
The inversion goes on to a digit, whose slot has the same number. -/
theorem ordered_choice_inverted_edit :
    let digit : Pattern :=
      Standard.anchored "^[0-9]" (.seq (.look .startText) (.chars (.interval '0' '9')))
    let opening : Node := .choice [.rule ⟨1, "failing"⟩, .choice [.literal "<", .literal "["]]
    let grammar : Grammar Unit := fun
      | 0 => do
          let _ ← Body.ask opening
          match ← Body.ask (.pattern digit) with
          | .error halt => return .error halt
          | .ok found => return .ok (.record [("key", found.value)])
      | _ => Standard.sequence [.pattern digit, .choice []]
    let change : Nat → List Reply → Node → Node := fun
      | 0, [], _ => .choice [.literal "<", .rule ⟨0, "outer"⟩]
      | _, _, node => node
    let needle := Needle.single "key" (.string "7") rfl
    (∀ id, (grammar id).SessionOnly) ∧
      EditSpares grammar needle 2 ⟨0, "outer"⟩ .empty () change ∧
      invert grammar 2 needle ⟨0, "outer"⟩ () = some (.complete ["<", "7"], ()) ∧
      invert (grammar.edit change) 2 needle ⟨0, "outer"⟩ () =
        some (.complete ["<", "7"], ()) := by
  intro digit opening grammar change needle
  have honly : ∀ id, (grammar id).SessionOnly := by
    intro id
    match id with
    | 0 =>
        intro _ reply
        cases reply <;> trivial
    | _ + 1 => exact Standard.sessionOnly_sequence _
  have hspares : EditSpares grammar needle 2 ⟨0, "outer"⟩ .empty () change := by
    intro d q start memory₁ memory₂ log node next frame _ course hopen _
    obtain ⟨id, name⟩ := q
    match id, log with
    | 0, [] =>
        obtain ⟨hbody, hframe⟩ := course.eq_of_nil (honly 0)
        obtain rfl : node = opening := (Body.request.inj hbody).1
        obtain ⟨components, slots, resolved⟩ := start
        obtain rfl : frame = ⟨⟨components, slots, resolved⟩, false⟩ := hframe
        obtain rfl : resolved = false := hopen
        have hended : synthesize grammar needle 1 ⟨1, "failing"⟩ ⟨components, slots, false⟩
            memory₂ = some (.failed, _, memory₂) := rfl
        have hdecides : Decides grammar needle ⟨components, slots, false⟩ memory₂
            opening.candidates [.rule ⟨1, "failing"⟩] (.literal "<") _ _ :=
          ⟨⟨[.literal "["], rfl⟩, by simpa using Fails.rule hended, .literal⟩
        have hother : (change 0 [] opening).candidates =
            [] ++ .literal "<" :: [.rule ⟨0, "outer"⟩] := rfl
        exact .of_decides hdecides hother (List.nil_sublist _)
    | 0, _ :: _ => exact .of_candidates_eq rfl
    | _ + 1, _ => exact .of_candidates_eq rfl
  have houtcome : invert grammar 2 needle ⟨0, "outer"⟩ () = some (.complete ["<", "7"], ()) := by
    decide +kernel
  obtain ⟨_, hinversions, _⟩ := ordered_choice_inverted grammar honly needle
  obtain ⟨houtcomes, _⟩ := hinversions change 2 ⟨0, "outer"⟩ () hspares
  exact ⟨honly, hspares, houtcome, houtcomes _ _ houtcome⟩

end Backward

end TwoWay
