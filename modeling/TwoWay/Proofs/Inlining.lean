import TwoWay.Grammar.Standard
import TwoWay.Proofs.Backward.Walk
import TwoWay.Proofs.Forward.Shift

/-!
Asking for a rule and running its body in place. A rule that is asked for has a frame of its
own; a body that runs in place goes on with the frame that is there. Over a text the two come
to the same values and leave the same text, because a frame goes by what is left of the text
alone. What differs is how many requests have been answered, which later failures tell and
nothing else shows. While a grammar is inverted the frames share their draft, and a rule that
stays unfinished has done to it what its body does in place.
-/

namespace TwoWay

variable {M α σ : Type}

namespace Body

/-- What a body comes to against one of ever larger sessions, at each that is large enough
for it. -/
def Comes (sessions : Nat → Session σ M) (body : Body M α) (state : σ) (memory : M) (a : α)
    (state' : σ) (memory' : M) : Prop :=
  ∃ least, ∀ depth, least ≤ depth →
    body.run (sessions depth) state memory = some (a, state', memory')

section Comes

variable {sessions : Nat → Session σ M} {body : Body M α} {state state' : σ}
  {memory memory' : M} {a : α}

theorem comes_of_run
    (hwithin : ∀ ⦃depth larger⦄, depth ≤ larger → Within (sessions depth) (sessions larger))
    {depth : Nat} (hrun : body.run (sessions depth) state memory = some (a, state', memory')) :
    Comes sessions body state memory a state' memory' :=
  ⟨depth, fun _ hle => run_within (hwithin hle) hrun⟩

theorem run_rule (session : Session σ M) (r : Rule) :
    (Body.rule r : Body M _).run session state memory =
      (session (.rule r) state memory).map fun (reply, state, memory) =>
        (reply.map Answer.value, state, memory) := by
  show (Body.request (.rule r) _).run session state memory = _
  simp only [Body.run]
  cases session (.rule r) state memory with
  | none => rfl
  | some found =>
      obtain ⟨reply, state₁, memory₁⟩ := found
      cases reply <;> rfl

end Comes

end Body

namespace Forward

abbrev sessions (grammar : Grammar M) (depth : Nat) : Session Frame M :=
  session (parse grammar depth)

variable {grammar : Grammar M} {r : Rule} {frame frame' : Frame} {memory memory' : M}

/-- A parse succeeds when the body comes to a value from the start of the text and none of its
requests fails. -/
theorem parse_eq_ok {depth : Nat} {input remaining : List Char} {value : Value} :
    parse grammar (depth + 1) r input memory = some (⟨remaining, .ok value⟩, memory') ↔
      ∃ steps, (grammar r.id).run (sessions grammar depth) (Frame.start input) memory =
        some (.ok value, ⟨remaining, steps, none⟩, memory') := by
  rw [parse_succ, Option.map_eq_some_iff]
  constructor
  · rintro ⟨⟨outcome, ⟨remaining', steps, failure⟩, memory₁⟩, hrun, hended⟩
    obtain ⟨hresult, rfl⟩ := Prod.mk.inj hended
    obtain ⟨hfailure, rfl⟩ := finish_eq_ok.1 (congrArg Result.outcome hresult)
    have hremaining := congrArg Result.remaining hresult
    rw [finish_remaining] at hremaining
    obtain rfl : remaining' = remaining := hremaining
    obtain rfl : failure = none := hfailure
    exact ⟨steps, hrun⟩
  · rintro ⟨steps, hrun⟩
    exact ⟨_, hrun, rfl⟩

theorem session_rule_eq_ok {run : Runner M} (hlive : frame.failure = none) {answer : Answer} :
    session run (.rule r) frame memory = some (.ok answer, frame', memory') ↔
      ∃ value remaining, run r frame.remaining memory = some (⟨remaining, .ok value⟩, memory') ∧
        answer = .rule value ∧ frame' = frame.advance remaining := by
  rw [session_rule hlive, Option.map_eq_some_iff]
  constructor
  · rintro ⟨⟨⟨remaining, outcome⟩, memory₁⟩, hrun, hreply⟩
    cases outcome with
    | error failure => simp at hreply
    | ok value =>
        simp only [Prod.mk.injEq, Except.ok.injEq] at hreply
        obtain ⟨rfl, rfl, rfl⟩ := hreply
        exact ⟨value, remaining, hrun, rfl, rfl⟩
  · rintro ⟨value, remaining, hrun, rfl, rfl⟩
    exact ⟨_, hrun, rfl⟩

theorem sessions_within (grammar : Grammar M) ⦃depth larger : Nat⦄ (hle : depth ≤ larger) :
    Body.Within (sessions grammar depth) (sessions grammar larger) :=
  session_within (parse_within hle)

/-- What a body comes to in a frame it comes to from the start of what is left of the text, and
the steps are counted on. -/
theorem run_of_live {body : Body M α} {depth : Nat} (hlive : frame.failure = none) {a : α} :
    body.run (sessions grammar depth) frame memory = some (a, frame', memory') ↔
      ∃ first, body.run (sessions grammar depth) (Frame.start frame.remaining) memory =
        some (a, first, memory') ∧ frame' = first.shift frame.step := by
  obtain ⟨remaining, step, failure⟩ := frame
  obtain rfl : failure = none := hlive
  rw [← Frame.start_shift remaining step, run_shift, Option.map_eq_some_iff]
  constructor
  · rintro ⟨⟨a, first, memory₁⟩, hrun, hended⟩
    obtain ⟨rfl, hshift, rfl⟩ : a = _ ∧ first.shift step = frame' ∧ memory₁ = memory' := by
      simpa using hended
    exact ⟨first, hrun, by simpa [Frame.shift, Frame.start] using hshift.symm⟩
  · rintro ⟨first, hrun, rfl⟩
    exact ⟨_, hrun, by simp [Frame.shift, Frame.start]⟩

theorem comes_rule_iff (hlive : frame.failure = none) {value : Value} :
    Body.Comes (sessions grammar) (Body.rule r) frame memory (.ok value) frame' memory' ↔
      ∃ remaining steps, frame' = ⟨remaining, frame.step + 1, none⟩ ∧
        Body.Comes (sessions grammar) (grammar r.id) frame memory (.ok value)
          ⟨remaining, steps, none⟩ memory' := by
  constructor
  · rintro ⟨least, hleast⟩
    have hrun := hleast (least + 1) (Nat.le_succ least)
    rw [Body.run_rule, Option.map_eq_some_iff] at hrun
    obtain ⟨⟨reply, frame₁, memory₁⟩, hreply, hended⟩ := hrun
    obtain ⟨hvalue, rfl, rfl⟩ : reply.map Answer.value = .ok value ∧ frame₁ = frame' ∧
        memory₁ = memory' := by simpa using hended
    cases reply with
    | error halt => cases hvalue
    | ok answer =>
        obtain ⟨_, remaining, hparse, rfl, rfl⟩ := (session_rule_eq_ok hlive).1 hreply
        obtain rfl := Except.ok.inj hvalue
        obtain ⟨steps, hbody⟩ := parse_eq_ok.1 hparse
        -- The rule begins a frame of its own, so its steps are counted from zero.
        have hinline := (run_of_live hlive).2 ⟨_, hbody, rfl⟩
        refine ⟨remaining, steps + frame.step, ?_,
          Body.comes_of_run (sessions_within grammar) hinline⟩
        simp [Frame.advance, hlive]
  · rintro ⟨remaining, steps, rfl, least, hleast⟩
    obtain ⟨⟨remaining', steps', failure⟩, hbody, hshift⟩ :=
      (run_of_live hlive).1 (hleast least (Nat.le_refl least))
    obtain ⟨rfl, _, hfailure⟩ := Frame.mk.inj hshift
    obtain rfl : failure = none := by simpa using hfailure.symm
    have hparse := parse_eq_ok.2 ⟨steps', hbody⟩
    have hreply : sessions grammar (least + 1) (.rule r) frame memory =
        some (.ok (.rule value), frame.advance remaining, memory') :=
      (session_rule_eq_ok hlive).2 ⟨value, _, hparse, rfl, rfl⟩
    have hasked : (Body.rule r).run (sessions grammar (least + 1)) frame memory =
        some (.ok value, ⟨remaining, frame.step + 1, none⟩, memory') := by
      rw [Body.run_rule, hreply]
      simp [Frame.advance, hlive, Answer.value, Except.map]
    exact Body.comes_of_run (sessions_within grammar) hasked

theorem comes_from_step {remaining : List Char} {i : Nat} {body : Body M α} {a : α} :
    Body.Comes (sessions grammar) body ⟨remaining, i, none⟩ memory a frame' memory' ↔
      ∃ first, Body.Comes (sessions grammar) body (Frame.start remaining) memory a first memory' ∧
        frame' = first.shift i := by
  constructor
  · rintro ⟨least, hleast⟩
    obtain ⟨first, hfirst, rfl⟩ := (run_of_live rfl).1 (hleast least (Nat.le_refl least))
    exact ⟨first, Body.comes_of_run (sessions_within grammar) hfirst, rfl⟩
  · rintro ⟨first, ⟨least, hleast⟩, rfl⟩
    exact ⟨least, fun depth hle => (run_of_live rfl).2 ⟨first, hleast depth hle, rfl⟩⟩

end Forward

namespace Backward

abbrev sessions (grammar : Grammar M) (needle : Needle) (depth : Nat) : Session Frame M :=
  session (synthesize grammar needle depth)

variable {grammar : Grammar M} {needle : Needle} {r : Rule} {frame : Frame} {draft' : Draft}
  {memory memory' : M} {depth : Nat}

theorem sessions_within (grammar : Grammar M) (needle : Needle) ⦃depth larger : Nat⦄
    (hle : depth ≤ larger) :
    Body.Within (sessions grammar needle depth) (sessions grammar needle larger) :=
  session_within (synthesize_within hle)

/-- A rule stays unfinished when its body comes to nothing, the needle being unmet and none of
its requests having failed. -/
theorem synthesize_eq_unfinished {draft : Draft} :
    synthesize grammar needle (depth + 1) r draft memory = some (.unfinished, draft', memory') ↔
      draft'.resolved = false ∧
        (grammar r.id).run (sessions grammar needle depth) ⟨draft, false⟩ memory =
          some (.ok .nil, ⟨draft', false⟩, memory') := by
  rw [synthesize_succ_eq_some]
  constructor
  · rintro ⟨outcome, ⟨draft₁, halted⟩, hbody, hfinish⟩
    cases hresolved : draft₁.resolved with
    | true =>
        rw [finish_of_resolved hresolved] at hfinish
        cases hfinish
    | false =>
        rcases finish_cases hresolved hfinish with ⟨hfailed, _⟩ | ⟨hlive, rfl, _, rfl⟩ |
          ⟨_, hcomplete, _⟩
        · cases hfailed
        · obtain rfl : halted = false := hlive
          exact ⟨hresolved, hbody⟩
        · cases hcomplete
  · rintro ⟨hopen, hbody⟩
    exact ⟨_, _, hbody, by simp [Frame.finish, hopen]⟩

/-- A rule that stays unfinished is answered with nothing when it is asked for, and comes to
nothing in place; both leave the draft that it leaves. -/
theorem comes_of_unfinished (hopen : frame.draft.resolved = false) (hlive : frame.halted = false)
    (hended : synthesize grammar needle depth r frame.draft memory =
      some (.unfinished, draft', memory')) :
    Body.Comes (sessions grammar needle) (Body.rule r) frame memory (.ok .nil) ⟨draft', false⟩
        memory' ∧
      Body.Comes (sessions grammar needle) (grammar r.id) frame memory (.ok .nil)
        ⟨draft', false⟩ memory' := by
  constructor
  · have hnode : (Node.rule r).candidates = [] ++ .rule r :: [] := rfl
    have hreply : sessions grammar needle depth (.rule r) frame memory =
        some (.ok (.rule .nil), ⟨draft', false⟩, memory') :=
      session_of_attempt hopen hlive hnode .nil (by simp [attempt, hended])
    have hasked : (Body.rule r).run (sessions grammar needle depth) frame memory =
        some (.ok .nil, ⟨draft', false⟩, memory') := by
      rw [Body.run_rule, hreply]
      rfl
    exact Body.comes_of_run (sessions_within grammar needle) hasked
  · obtain ⟨draft, halted⟩ := frame
    obtain rfl : halted = false := hlive
    cases depth with
    | zero => simp [synthesize] at hended
    | succ depth =>
        obtain ⟨_, hbody⟩ := synthesize_eq_unfinished.1 hended
        exact Body.comes_of_run (sessions_within grammar needle) hbody

end Backward

/-- Asking for a rule agrees with running its body in place, in a frame in which no request has
failed: over a text asking comes to a value just when the body does in place with none of its
requests failing, and the two frames differ in their steps alone, which later results count on.
While a grammar is inverted, a rule that stays unfinished comes to nothing either way and leaves
the same draft. -/
theorem delegation_inlined {grammar : Grammar M} {r : Rule} :
    (∀ {frame : Forward.Frame} {memory : M}, frame.failure = none →
      ∀ (value : Value) (frame' : Forward.Frame) (memory' : M),
        Body.Comes (Forward.sessions grammar) (Body.rule r) frame memory (.ok value) frame'
            memory' ↔
          ∃ remaining steps, frame' = ⟨remaining, frame.step + 1, none⟩ ∧
            Body.Comes (Forward.sessions grammar) (grammar r.id) frame memory (.ok value)
              ⟨remaining, steps, none⟩ memory') ∧
    (∀ {α : Type} {rest : Body M α} {remaining : List Char} {i : Nat} {memory : M} {a : α}
        {frame' : Forward.Frame} {memory' : M},
      Body.Comes (Forward.sessions grammar) rest ⟨remaining, i, none⟩ memory a frame' memory' ↔
        ∃ first : Forward.Frame,
          Body.Comes (Forward.sessions grammar) rest (.start remaining) memory a first memory' ∧
          frame' = first.shift i) ∧
    (∀ {needle : Needle} {depth : Nat} {frame : Backward.Frame} {draft' : Backward.Draft}
        {memory memory' : M},
      frame.draft.resolved = false → frame.halted = false →
      Backward.synthesize grammar needle depth r frame.draft memory =
        some (.unfinished, draft', memory') →
      Body.Comes (Backward.sessions grammar needle) (Body.rule r) frame memory (.ok .nil)
          ⟨draft', false⟩ memory' ∧
        Body.Comes (Backward.sessions grammar needle) (grammar r.id) frame memory (.ok .nil)
          ⟨draft', false⟩ memory') := by
  refine ⟨?_, ?_, ?_⟩
  · intro frame memory hlive value frame' memory'
    exact Forward.comes_rule_iff hlive
  · intro α rest remaining i memory a frame' memory'
    exact Forward.comes_from_step
  · intro needle depth frame draft' memory memory' hopen hlive hended
    exact Backward.comes_of_unfinished hopen hlive hended

/-- A rule that takes two letters, the second after another rule has taken it and failed. In
place it counts two requests where asking counts one, and the next request fails at another
step for the same reason. Inverted, the other rule puts out two texts either way. -/
theorem delegation_inlined_letters :
    let grammar : Grammar Unit := fun
      | 0 => do
          let _ ← Body.ask (.literal "a")
          let _ ← Body.ask (.choice [.rule ⟨1, "bx"⟩, .literal "b"])
          return .ok (.string "ab")
      | _ => Standard.sequence [.literal "b", .literal "x"]
    let frame : Forward.Frame := ⟨"abc".toList, 3, none⟩
    let needle := Needle.single "key" (.string "value") rfl
    let live : Backward.Frame := ⟨⟨["<"], [], false⟩, false⟩
    let failure (step : Nat) : Forward.Failure := .mk step (.unmatched (.literal "d")) []
    frame.failure = none ∧
      Body.Comes (Forward.sessions grammar) (Body.rule ⟨0, "ab"⟩) frame () (.ok (.string "ab"))
        ⟨['c'], 4, none⟩ () ∧
      Body.Comes (Forward.sessions grammar) (grammar 0) frame () (.ok (.string "ab"))
        ⟨['c'], 5, none⟩ () ∧
      Body.Comes (Forward.sessions grammar) (Body.ask (.literal "d")) ⟨['c'], 4, none⟩ ()
        (.error .mismatch) ⟨['c'], 4, some (failure 4)⟩ () ∧
      Body.Comes (Forward.sessions grammar) (Body.ask (.literal "d")) ⟨['c'], 5, none⟩ ()
        (.error .mismatch) ⟨['c'], 5, some (failure 5)⟩ () ∧
      (live.draft.resolved = false ∧ live.halted = false) ∧
      Body.Comes (Backward.sessions grammar needle) (Body.rule ⟨1, "bx"⟩) live () (.ok .nil)
        ⟨⟨["<", "b", "x"], [], false⟩, false⟩ () ∧
      Body.Comes (Backward.sessions grammar needle) (grammar 1) live () (.ok .nil)
        ⟨⟨["<", "b", "x"], [], false⟩, false⟩ () := by
  intro grammar frame needle live failure
  obtain ⟨hvalue, hrest, _⟩ := @delegation_inlined Unit grammar ⟨0, "ab"⟩
  obtain ⟨_, _, hunfinished⟩ := @delegation_inlined Unit grammar ⟨1, "bx"⟩
  have hbody : (grammar 0).run (Forward.sessions grammar 1) frame () =
      some (.ok (.string "ab"), ⟨['c'], 5, none⟩, ()) := rfl
  have hinline := Body.comes_of_run (Forward.sessions_within grammar) hbody
  have hfails : (Body.ask (.literal "d")).run (Forward.sessions grammar 0) (.start ['c']) () =
      some (.error .mismatch, ⟨['c'], 0, some (failure 0)⟩, ()) := rfl
  have hnext := Body.comes_of_run (Forward.sessions_within grammar) hfails
  have hended : Backward.synthesize grammar needle 1 ⟨1, "bx"⟩ live.draft () =
      some (.unfinished, ⟨["<", "b", "x"], [], false⟩, ()) := rfl
  obtain ⟨hasked, hplaced⟩ := hunfinished rfl rfl hended
  exact ⟨rfl, (hvalue rfl _ _ _).2 ⟨_, _, rfl, hinline⟩, hinline, hrest.2 ⟨_, hnext, rfl⟩,
    hrest.2 ⟨_, hnext, rfl⟩, ⟨rfl, rfl⟩, hasked, hplaced⟩

end TwoWay
