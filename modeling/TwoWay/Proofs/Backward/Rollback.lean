import TwoWay.Grammar.Standard
import TwoWay.Proofs.Backward.Walk
import TwoWay.Proofs.Backward.Settle

/-!
A failed inversion of a rule leaves no trace. Taking back is cutting the
component list and the slot table to two lengths, so nothing that is done on
the way may touch what they held before. A draft keeps another when it has its
entries at their places and the needle is not met: putting out, taking back and
unfinished rules all preserve that, and writing meets the needle.
-/

namespace TwoWay.Backward

open Body (Course Exchange)

variable {M : Type}

/-- The draft still has all that `base` had, and the needle is not met. -/
structure Draft.Keeps (d base : Draft) : Prop where
  live : d.resolved = false
  components : base.components <+: d.components
  slots : base.slots <+: d.slots

namespace Draft.Keeps

variable {base d d' : Draft}

theorem refl (hlive : d.resolved = false) : d.Keeps d :=
  ⟨hlive, List.prefix_refl _, List.prefix_refl _⟩

theorem trans (h : d.Keeps base) (h' : d'.Keeps d) : d'.Keeps base :=
  ⟨h'.live, h.components.trans h'.components, h.slots.trans h'.slots⟩

theorem push (hlive : d.resolved = false) (text : String) : (d.push text).Keeps d :=
  ⟨hlive, List.prefix_append _ _, List.prefix_refl _⟩

theorem reserve (hlive : d.resolved = false) (p : Pattern) : (d.reserve p).2.Keeps d :=
  ⟨hlive, List.prefix_append _ _, List.prefix_append _ _⟩

theorem rollback (h : d.Keeps base) (hbase : base.resolved = false) :
    d.rollback base = base := by
  obtain ⟨components, slots, resolved⟩ := base
  obtain rfl : resolved = false := hbase
  simp only [Draft.rollback, h.live, Draft.mk.injEq, and_true]
  exact ⟨(List.prefix_iff_eq_take.1 h.components).symm,
    (List.prefix_iff_eq_take.1 h.slots).symm⟩

end Draft.Keeps

/-- How the draft that the inversion of a rule leaves relates to the one that it
began with. -/
def Leaves : Ending → Draft → Draft → Prop
  | .complete, _, left => left.resolved = true
  | .unfinished, start, left => left.Keeps start
  | .failed, start, left => left = start

/-- Whether rules, run from a draft in which the needle is not met, leave what
their endings say. -/
def Runner.Atomic (run : Runner M) : Prop :=
  ∀ ⦃r draft memory ending draft' memory'⦄, draft.resolved = false →
    run r draft memory = some (ending, draft', memory') → Leaves ending draft draft'

def Frame.Holds (base : Draft) (frame : Frame) : Prop :=
  frame.draft.resolved = true ∨ frame.draft.Keeps base

theorem Frame.Holds.keeps {base : Draft} {frame : Frame} (h : frame.Holds base)
    (hlive : frame.draft.resolved = false) : frame.draft.Keeps base := by
  rcases h with hresolved | hkeeps
  · simp [hlive] at hresolved
  · exact hkeeps

section Step

variable {run : Runner M} {draft draft' : Draft} {memory memory' : M}

theorem attempt_none (hrun : run.Atomic) {c : Candidate} (hlive : draft.resolved = false)
    (hc : attempt run c draft memory = some (none, draft', memory')) : draft' = draft := by
  obtain ⟨r, _, hr⟩ := failed_of_attempt hc
  exact hrun hlive hr

theorem Passed.draft_eq (hrun : run.Atomic) {pre : List Candidate}
    (hlive : draft.resolved = false) (h : Passed run pre draft memory draft' memory') :
    draft' = draft := by
  induction h with
  | nil => rfl
  | cons hc _ ih =>
      obtain rfl := attempt_none hrun hlive hc
      exact ih hlive

theorem keeps_of_answer (hrun : run.Atomic) (hlive : draft.resolved = false)
    {c : Candidate} {answer : Answer}
    (hc : attempt run c draft memory = some (some (.ok answer), draft', memory')) :
    draft'.Keeps draft := by
  rcases attempt_cases hc with ⟨text, _, _, rfl, _⟩ | ⟨_, _, _, _, rfl, _⟩ |
    ⟨p, _, _, _, rfl, _⟩ | ⟨q, ending, _, hq, hanswer⟩
  · exact .push hlive text
  · exact .refl hlive
  · exact .reserve hlive p
  · cases ending with
    | complete => cases hanswer
    | failed => cases hanswer
    | unfinished => exact hrun hlive hq

theorem attempt_some (hrun : run.Atomic) {c : Candidate} {reply : Reply}
    (hlive : draft.resolved = false)
    (hc : attempt run c draft memory = some (some reply, draft', memory')) :
    draft'.resolved = true ∨ draft'.Keeps draft := by
  cases reply with
  | ok answer => exact Or.inr (keeps_of_answer hrun hlive hc)
  | error halt =>
      obtain ⟨q, _, _, hq⟩ := complete_of_attempt hc
      exact Or.inl (hrun hlive hq)

theorem draft_of_session (hrun : run.Atomic) {node : Node} {frame frame' : Frame} {reply : Reply}
    (hreply : session run node frame memory = some (reply, frame', memory')) :
    frame'.draft = frame.draft ∨
    ∃ c memory₁, frame.draft.resolved = false ∧
      attempt run c frame.draft memory₁ = some (some reply, frame'.draft, memory') := by
  rcases session_cases hreply with ⟨_, _, rfl, _⟩ | ⟨_, _, _, rfl, _⟩ |
    ⟨hlive, _, pre, c, post, draft₁, memory₁, draft₂, _, hpre, hc, rfl⟩ |
    ⟨hlive, _, draft₁, hnode, _, rfl⟩
  · exact Or.inl rfl
  · exact Or.inl rfl
  · obtain rfl := hpre.draft_eq hrun hlive
    exact Or.inr ⟨c, memory₁, hlive, hc⟩
  · exact Or.inl (hnode.draft_eq hrun hlive)

/-- No request alters what the draft held when the rule began, unless the needle
is met by it. -/
theorem session_holds (hrun : run.Atomic) {base : Draft} {node : Node} {frame frame' : Frame}
    {reply : Reply} (hreply : session run node frame memory = some (reply, frame', memory'))
    (hframe : frame.Holds base) : frame'.Holds base := by
  rcases draft_of_session hrun hreply with hsame | ⟨c, memory₁, hlive, hc⟩
  · unfold Frame.Holds
    rw [hsame]
    exact hframe
  · rcases attempt_some hrun hlive hc with hresolved | hkeeps
    · exact Or.inl hresolved
    · exact Or.inr ((hframe.keeps hlive).trans hkeeps)

theorem course_holds (hrun : run.Atomic) {base : Draft} {body body' : Body M Outcome}
    {log : List (Exchange Frame M)} {frame frame' : Frame}
    (course : Course (session run) body frame memory log body' frame' memory')
    (hframe : frame.Holds base) : frame'.Holds base :=
  course.preserves (fun _ _ _ _ _ _ hreply => session_holds hrun hreply) hframe

theorem finish_leaves {needle : Needle} {mark : Draft} {frame : Frame} {outcome : Outcome}
    {ending : Ending} (hmark : mark.resolved = false) (hframe : frame.Holds mark)
    (hfinish : frame.finish needle mark outcome = (ending, draft')) :
    Leaves ending mark draft' := by
  cases hresolved : frame.draft.resolved with
  | true =>
      rw [finish_of_resolved hresolved] at hfinish
      obtain ⟨rfl, rfl⟩ := Prod.mk.inj hfinish
      exact hresolved
  | false =>
      have hkeeps := hframe.keeps hresolved
      rcases finish_cases hresolved hfinish with ⟨rfl, rfl⟩ | ⟨_, _, rfl, rfl⟩ |
        ⟨_, rfl, value, _, _, hsettle⟩
      · exact hkeeps.rollback hmark
      · exact hkeeps
      · exact Draft.settle?_resolved hsettle

end Step

/-- By induction on the depth: the rules below are atomic, so the draft of the
frame keeps the one the rule began with, and cutting it back restores that. -/
theorem synthesize_atomic (grammar : Grammar M) (needle : Needle) (depth : Nat) :
    Runner.Atomic (synthesize grammar needle depth) := by
  induction depth with
  | zero =>
      intro r draft memory ending draft' memory' _ hrun
      simp [synthesize] at hrun
  | succ depth ih =>
      intro r draft memory ending draft' memory' hlive hrun
      obtain ⟨outcome, frame, hbody, hfinish⟩ := synthesize_succ_eq_some.1 hrun
      have hstart : Frame.Holds draft ⟨draft, false⟩ := Or.inr (.refl hlive)
      obtain ⟨log, course⟩ := Body.course_of_run hbody
      exact finish_leaves hlive (course_holds ih course hstart) hfinish

/-- The frames of an inversion: its own, and one for each rule that is tried in a
frame of it, however that rule ends. -/
inductive Opens (grammar : Grammar M) (needle : Needle) (depth : Nat) (r : Rule)
    (draft : Draft) (memory : M) : Nat → Rule → Draft → M → Prop where
  | own : Opens grammar needle depth r draft memory depth r draft memory
  | nested {d : Nat} {q q' : Rule} {start draft' : Draft} {memory₁ memory₂ memory₃ : M}
      {log : List (Exchange Frame M)} {node : Node} {next : Reply → Body M Outcome}
      {frame : Frame} {pre post : List Candidate} :
      Opens grammar needle depth r draft memory (d + 1) q start memory₁ →
      Course (session (synthesize grammar needle d)) (grammar q.id) ⟨start, false⟩ memory₁ log
        (.request node next) frame memory₂ →
      frame.draft.resolved = false → frame.halted = false →
      node.candidates = pre ++ .rule q' :: post →
      Passed (synthesize grammar needle d) pre frame.draft memory₂ draft' memory₃ →
      Opens grammar needle depth r draft memory d q' draft' memory₃

theorem Opens.depth_le {grammar : Grammar M} {needle : Needle} {depth d : Nat} {r q : Rule}
    {draft start : Draft} {memory memory₁ : M}
    (opens : Opens grammar needle depth r draft memory d q start memory₁) : d ≤ depth := by
  induction opens with
  | own => exact Nat.le_refl depth
  | nested _ _ _ _ _ _ ih => exact Nat.le_of_succ_le ih

def EndsUnmet (grammar : Grammar M) (needle : Needle) (depth : Nat) (r : Rule)
    (draft : Draft) (memory : M) : Prop :=
  ∃ ending draft' memory',
    synthesize grammar needle depth r draft memory = some (ending, draft', memory') ∧
    ending ≠ .complete

section Unmet

variable {grammar : Grammar M} {needle : Needle} {d : Nat} {q : Rule} {start : Draft}
  {memory memory' : M} {log : List (Exchange Frame M)} {body : Body M Outcome} {frame : Frame}

theorem EndsUnmet.live (hunmet : EndsUnmet grammar needle (d + 1) q start memory)
    (course : Course (session (synthesize grammar needle d)) (grammar q.id) ⟨start, false⟩
      memory log body frame memory') :
    frame.draft.resolved = false := by
  obtain ⟨ending, draft', memory'', hended, hending⟩ := hunmet
  cases hresolved : frame.draft.resolved with
  | false => rfl
  | true =>
      rw [synthesize_of_resolved course hresolved] at hended
      obtain ⟨_, _, hcomplete⟩ := Option.map_eq_some_iff.1 hended
      exact absurd (congrArg Prod.fst hcomplete).symm hending

theorem EndsUnmet.nested {q' : Rule} {node : Node} {next : Reply → Body M Outcome}
    {pre post : List Candidate} {draft' : Draft} {memory'' : M}
    (hunmet : EndsUnmet grammar needle (d + 1) q start memory)
    (course : Course (session (synthesize grammar needle d)) (grammar q.id) ⟨start, false⟩
      memory log (.request node next) frame memory')
    (hhalted : frame.halted = false) (hnode : node.candidates = pre ++ .rule q' :: post)
    (hpre : Passed (synthesize grammar needle d) pre frame.draft memory' draft' memory'') :
    EndsUnmet grammar needle d q' draft' memory'' := by
  have hlive := hunmet.live course
  obtain ⟨ending, draft₁, memory₁, hended, hending⟩ := hunmet
  obtain ⟨_, hreply⟩ := session_of_ended hended course
  obtain ⟨⟨ending', draft₂, memory₂⟩, hrule⟩ :=
    ended_of_session hlive hhalted hnode hpre hreply
  refine ⟨ending', draft₂, memory₂, hrule, ?_⟩
  rintro rfl
  have hstart : draft'.resolved = false := by
    rw [hpre.draft_eq (synthesize_atomic grammar needle d) hlive]
    exact hlive
  have hmet : draft₂.resolved = true := synthesize_atomic grammar needle d hstart hrule
  exact hending (complete_of_nested hended course hlive hhalted hnode hpre hrule hmet).1

/-- The draft of a frame keeps the one that its rule began with, as long as the needle is
unmet. -/
theorem keeps_of_course {first : Body M Outcome} (hstart : start.resolved = false)
    (course : Course (session (synthesize grammar needle d)) first ⟨start, false⟩ memory log body
      frame memory')
    (hopen : frame.draft.resolved = false) : frame.draft.Keeps start := by
  have hholds : frame.Holds start :=
    course_holds (synthesize_atomic grammar needle d) course (Or.inr (.refl hstart))
  exact hholds.keeps hopen

theorem Opens.keeps {depth : Nat} {r : Rule} {draft : Draft} (hlive : draft.resolved = false)
    (hunmet : EndsUnmet grammar needle depth r draft memory)
    (opens : Opens grammar needle depth r draft memory d q start memory') :
    start.Keeps draft ∧ EndsUnmet grammar needle d q start memory' := by
  induction opens with
  | own => exact ⟨.refl hlive, hunmet⟩
  | @nested d q q' start draft' memory₁ memory₂ memory₃ log node next frame pre post _ course
      hopen hhalted hnode hpre ih =>
      obtain ⟨hkeeps, hparent⟩ := ih
      refine ⟨?_, hparent.nested course hhalted hnode hpre⟩
      rw [hpre.draft_eq (synthesize_atomic grammar needle d) hopen]
      exact hkeeps.trans (keeps_of_course hkeeps.live course hopen)

end Unmet

/-- A rule that fails from a draft leaves that draft, entry by entry, with the
needle unmet. On the way, at every moment of every frame, nested ones that fail
or stay unfinished among them, each entry that was there before is as it was. -/
theorem failed_inversion_restores {grammar : Grammar M} {needle : Needle} {depth : Nat}
    {r : Rule} {draft draft' : Draft} {memory memory' : M} (hlive : draft.resolved = false)
    (hfailed : synthesize grammar needle depth r draft memory =
      some (.failed, draft', memory')) :
    (draft'.components = draft.components ∧ draft'.slots = draft.slots ∧
      draft'.resolved = false) ∧
    ∀ {d : Nat} {q : Rule} {start : Draft} {memory₁ memory₂ : M}
        {log : List (Exchange Frame M)} {body : Body M Outcome} {frame : Frame},
      Opens grammar needle depth r draft memory (d + 1) q start memory₁ →
      Course (session (synthesize grammar needle d)) (grammar q.id) ⟨start, false⟩ memory₁ log
        body frame memory₂ →
      draft.components <+: frame.draft.components ∧ draft.slots <+: frame.draft.slots ∧
        frame.draft.resolved = false := by
  constructor
  · obtain rfl : draft' = draft := synthesize_atomic grammar needle depth hlive hfailed
    exact ⟨rfl, rfl, hlive⟩
  · intro d q start memory₁ memory₂ log body frame opens course
    have hunmet : EndsUnmet grammar needle depth r draft memory :=
      ⟨.failed, draft', memory', hfailed, by decide⟩
    obtain ⟨hstart, hframe⟩ := opens.keeps hlive hunmet
    have hopen := hframe.live course
    have hholds : frame.Holds start :=
      course_holds (synthesize_atomic grammar needle d) course (Or.inr (.refl hstart.live))
    have hkeeps := hstart.trans (hholds.keeps hopen)
    exact ⟨hkeeps.components, hkeeps.slots, hkeeps.live⟩

/-- A rule that puts out a text and a slot, has one rule stay unfinished and
another fail below it, goes on with a third text, and then turns down what it
has. The component and the slot that were there before it are the same after it,
and at each point on its way. -/
theorem failed_inversion_restores_kept :
    let grammar : Grammar Unit := fun
      | 0 => do
          let _ ← Body.ask (.literal "a")
          let _ ← Body.ask (.pattern Standard.endProbe)
          let _ ← Body.ask (.rule ⟨1, "unfinished"⟩)
          let _ ← Body.ask (.choice [.rule ⟨2, "failing"⟩, .literal "c"])
          return .error (.rejected "no")
      | 1 => Standard.sequence [.literal "b"]
      | _ => Standard.sequence [.literal "d", .choice []]
    let needle := Needle.single "key" (.string "value") rfl
    let kept : Draft := ⟨["kept", ""], [⟨1, Standard.endProbe⟩], false⟩
    kept.resolved = false ∧
      synthesize grammar needle 2 ⟨0, "outer"⟩ kept () = some (.failed, kept, ()) ∧
      ∀ log body frame,
        Course (session (synthesize grammar needle 1)) (grammar 0) ⟨kept, false⟩ () log body frame
          () →
        ["kept", ""] <+: frame.draft.components := by
  intro grammar needle kept
  have hlive : kept.resolved = false := rfl
  have hfailed : synthesize grammar needle 2 ⟨0, "outer"⟩ kept () = some (.failed, kept, ()) := rfl
  have hrestored := failed_inversion_restores hlive hfailed
  exact ⟨hlive, hfailed, fun log body frame course => (hrestored.2 .own course).1⟩

end TwoWay.Backward
