import TwoWay.Proofs.Backward.Resolution

/-!
Meeting the needle is final and has one cause. The needle is met when the body of a
frame whose requests have all been answered comes to a value that settles the draft.
No halt that a body returns can bring it about, not even one that says so and was
got from another inversion.

From then on the draft stands still. Every frame around is told at its next request
and at each one after that, and comes to its end complete with the same draft,
whatever its body makes of it.
-/

namespace TwoWay.Backward

open Body (Course Exchange Refuses)

variable {M : Type}

/-- In some frame of an inversion the body comes to `value`, which is not nothing, all
the requests of the frame having been answered and the needle being unmet in the draft
`left`, and this value settles the draft to `settled`. -/
inductive Settles (grammar : Grammar M) (needle : Needle) (depth : Nat) (r : Rule)
    (draft : Draft) (memory : M) (left : Draft) (value : Value) (settled : Draft) : Prop where
  | frame {d : Nat} {q : Rule} {start : Draft} {memory₁ memory₂ : M}
      {log : List (Exchange Frame M)} :
      Opens grammar needle depth r draft memory (d + 1) q start memory₁ →
      Course (session (synthesize grammar needle d)) (grammar q.id) ⟨start, false⟩ memory₁ log
        (.done (.ok value)) ⟨left, false⟩ memory₂ →
      (∀ x ∈ log, x.reply.isOk = true) → value ≠ .nil → left.resolved = false →
      left.settle? needle value = some settled →
      Settles grammar needle depth r draft memory left value settled

section Request

variable {run : Runner M} {node : Node} {frame frame' : Frame} {memory memory' : M}

theorem frame_eq_of_over {body body' : Body M Outcome} {log : List (Exchange Frame M)}
    (course : Course (session run) body frame memory log body' frame' memory')
    (hover : frame.draft.resolved = true ∨ frame.halted = true) : frame' = frame := by
  cases hresolved : frame.draft.resolved with
  | true =>
      have hrefuses : Refuses (session run) .resolved frame := refuses_of_resolved hresolved
      exact (hrefuses.course course).1
  | false =>
      have hhalted : frame.halted = true := by simpa [hresolved] using hover
      have hrefuses : Refuses (session run) .mismatch frame := refuses_of_halted hresolved hhalted
      exact (hrefuses.course course).1

theorem answered_or_over (hatomic : run.Atomic) {reply : Reply}
    (hreply : session run node frame memory = some (reply, frame', memory')) :
    reply.isOk = true ∨ frame'.draft.resolved = true ∨ frame'.halted = true := by
  rcases session_cases hreply with ⟨hresolved, _, rfl, _⟩ | ⟨_, hhalted, _, rfl, _⟩ |
    ⟨hopen, _, pre, c, post, draft₁, memory₁, draft₂, _, hpre, hc, rfl⟩ | ⟨_, _, _, _, _, rfl⟩
  · exact Or.inr (Or.inl hresolved)
  · exact Or.inr (Or.inr hhalted)
  · obtain rfl := hpre.draft_eq hatomic hopen
    cases reply with
    | ok answer => exact Or.inl rfl
    | error halt =>
        obtain ⟨q, _, _, hq⟩ := complete_of_attempt hc
        have hresolved : draft₂.resolved = true := hatomic hopen hq
        exact Or.inr (Or.inl hresolved)
  · exact Or.inr (Or.inr rfl)

theorem answered_of_live (hatomic : run.Atomic) {body body' : Body M Outcome}
    {log : List (Exchange Frame M)}
    (course : Course (session run) body frame memory log body' frame' memory')
    (hopen : frame'.draft.resolved = false) (hlive : frame'.halted = false) :
    ∀ x ∈ log, x.reply.isOk = true := by
  induction course with
  | here => simp
  | request hreply hrest ih =>
      rcases answered_or_over hatomic hreply with hok | hover
      · exact List.forall_mem_cons.2 ⟨hok, ih hopen hlive⟩
      · obtain rfl := frame_eq_of_over hrest hover
        simp [hopen, hlive] at hover
  | load _ ih => exact ih hopen hlive
  | store _ ih => exact ih hopen hlive

end Request

section Walk

variable {grammar : Grammar M} {needle : Needle} {d : Nat} {q : Rule} {start : Draft}
  {memory memory' : M} {log : List (Exchange Frame M)} {body : Body M Outcome} {frame : Frame}

/-- A rule whose body comes to a halt while the needle is unmet fails, whatever the halt
says, and leaves the draft it began with. -/
theorem synthesize_of_halt (hstart : start.resolved = false) {halt : Halt}
    (course : Course (session (synthesize grammar needle d)) (grammar q.id) ⟨start, false⟩ memory
      log (.done (.error halt)) frame memory')
    (hopen : frame.draft.resolved = false) :
    synthesize grammar needle (d + 1) q start memory = some (.failed, start, memory') := by
  have hback : frame.draft.rollback start = start :=
    (keeps_of_course hstart course hopen).rollback hstart
  rw [synthesize_of_done course]
  cases hhalted : frame.halted <;> simp [Frame.finish, hopen, hhalted, hback]

variable {depth : Nat} {r : Rule} {draft draft' settled left : Draft} {value : Value}
  {memory₁ memory₂ : M} {ending : Ending}

theorem Opens.ended {ended : Ending × Draft × M}
    (hended : synthesize grammar needle depth r draft memory = some ended)
    (opens : Opens grammar needle depth r draft memory d q start memory₁) :
    ∃ result, synthesize grammar needle d q start memory₁ = some result := by
  induction opens with
  | own => exact ⟨ended, hended⟩
  | nested _ course hopen hlive hnode hpre ih =>
      obtain ⟨_, hparent⟩ := ih
      obtain ⟨_, hreply⟩ := session_of_ended hparent course
      exact ended_of_session hopen hlive hnode hpre hreply

/-- An inversion that comes to its end, on the way of which a rule completes, completes
with the draft of that rule. By induction on the rules between the two: each is told
at the request for which the one below was tried. -/
theorem Opens.complete {ended : Ending × Draft × M}
    (hended : synthesize grammar needle depth r draft memory = some ended)
    (opens : Opens grammar needle depth r draft memory d q start memory₁)
    (hresolved : settled.resolved = true)
    (hq : synthesize grammar needle d q start memory₁ = some (.complete, settled, memory₂)) :
    ended.1 = .complete ∧ ended.2.1 = settled := by
  induction opens generalizing memory₂ with
  | own =>
      obtain rfl : ended = (.complete, settled, memory₂) :=
        Option.some.inj (hended.symm.trans hq)
      exact ⟨rfl, rfl⟩
  | nested hopens course hopen hlive hnode hpre ih =>
      obtain ⟨⟨ending, draft', memory₃⟩, hparent⟩ := hopens.ended hended
      obtain ⟨rfl, rfl⟩ := complete_of_nested hparent course hopen hlive hnode hpre hq hresolved
      exact ih hparent

theorem Settles.settle?_eq (h : Settles grammar needle depth r draft memory left value settled) :
    left.settle? needle value = some settled := by
  obtain ⟨_, _, _, _, _, hsettle⟩ := h
  exact hsettle

theorem Settles.reserved (hdraft : draft.Reserved)
    (h : Settles grammar needle depth r draft memory left value settled) : left.Reserved := by
  obtain ⟨opens, course, _, _, hopen, _⟩ := h
  exact opens.reserved hdraft course hopen

theorem settles_of_offers (hoffers : Offers grammar needle depth r draft memory left value)
    (hsettle : left.settle? needle value = some settled) :
    Settles grammar needle depth r draft memory left value settled := by
  obtain ⟨opens, course, hopen⟩ := hoffers
  have hanswered := answered_of_live (synthesize_atomic grammar needle _) course hopen rfl
  refine .frame opens course hanswered ?_ hopen hsettle
  rintro rfl
  cases hsettle

theorem Settles.complete (h : Settles grammar needle depth r draft memory left value settled)
    (hended : synthesize grammar needle depth r draft memory = some (ending, draft', memory')) :
    ending = .complete ∧ draft' = settled := by
  obtain @⟨d, q, start, memory₁, memory₂, log, opens, course, _, _, hopen, hsettle⟩ := h
  have hq : synthesize grammar needle (d + 1) q start memory₁ =
      some (.complete, settled, memory₂) := by
    rw [synthesize_of_done course, finish_of_settle hopen hsettle]
  exact Opens.complete hended opens (Draft.settle?_resolved hsettle) hq

/-- The needle is met at a moment of a frame only by a value that settles the draft, below
the frame. -/
theorem settles_of_resolved (hstart : start.resolved = false)
    (course : Course (session (synthesize grammar needle d)) (grammar q.id) ⟨start, false⟩ memory
      log body frame memory')
    (hresolved : frame.draft.resolved = true) :
    ∃ left value, Settles grammar needle (d + 1) q start memory left value frame.draft := by
  obtain ⟨node, next, frame₁, memory₂, reply, frame₂, memory₃, before, after, hbefore, hopen,
    hreply, hmet, hafter⟩ :=
    course.change (p := fun frame => frame.draft.resolved) hstart hresolved
  obtain ⟨hlive, _, pre, q', post, draft₁, memory₄, hnode, hpre, hunmet, hq'⟩ :=
    complete_of_session (synthesize_atomic grammar needle d) hreply hopen hmet
  have hrefuses : Refuses (session (synthesize grammar needle d)) .resolved frame₂ :=
    refuses_of_resolved hmet
  obtain ⟨rfl, _⟩ := hrefuses.course hafter
  obtain ⟨left, value, hoffers, hsettle⟩ :=
    offers_of_complete (.nested .own hbefore hopen hlive hnode hpre) hunmet hq'
  exact ⟨left, value, settles_of_offers hoffers hsettle⟩

theorem complete_iff_settles (hdraft : draft.resolved = false)
    (hended : synthesize grammar needle depth r draft memory = some (ending, draft', memory')) :
    ending = .complete ↔
      ∃ left value, Settles grammar needle depth r draft memory left value draft' := by
  constructor
  · rintro rfl
    obtain ⟨left, value, hoffers, hsettle⟩ := offers_of_complete .own hdraft hended
    exact ⟨left, value, settles_of_offers hoffers hsettle⟩
  · rintro ⟨left, value, hsettles⟩
    exact (hsettles.complete hended).1

theorem resolved_iff_complete (hdraft : draft.resolved = false)
    (hended : synthesize grammar needle depth r draft memory = some (ending, draft', memory')) :
    draft'.resolved = true ↔ ending = .complete := by
  have hleaves := synthesize_atomic grammar needle depth hdraft hended
  cases ending with
  | complete =>
      have hresolved : draft'.resolved = true := hleaves
      simp [hresolved]
  | unfinished =>
      have hkeeps : draft'.Keeps draft := hleaves
      simp [hkeeps.live]
  | failed =>
      obtain rfl : draft' = draft := hleaves
      simp [hdraft]

theorem session_of_settles {node : Node} {frame' : Frame} {pre post : List Candidate}
    {q' : Rule} {draft₁ : Draft} {reply : Reply} (hopen : frame.draft.resolved = false)
    (hlive : frame.halted = false) (hnode : node.candidates = pre ++ .rule q' :: post)
    (hpre : Passed (synthesize grammar needle d) pre frame.draft memory draft₁ memory₁)
    (hsettles : Settles grammar needle d q' draft₁ memory₁ left value settled)
    (hreply : session (synthesize grammar needle d) node frame memory =
      some (reply, frame', memory')) :
    reply = .error .resolved ∧ frame' = ⟨settled, false⟩ := by
  obtain ⟨⟨ending, draft', memory₂⟩, hq⟩ := ended_of_session hopen hlive hnode hpre hreply
  obtain ⟨rfl, rfl⟩ := hsettles.complete hq
  rw [session_of_complete hopen hlive hnode hpre hq] at hreply
  simp only [Option.some.injEq, Prod.mk.injEq] at hreply
  exact ⟨hreply.1.symm, hreply.2.1.symm⟩

end Walk

/-- Meeting the needle is final and cannot be forged. It is met just when a value of a body all of
whose requests were answered has settled the draft; from then on each request of each frame around
is refused, and every rule on the way ends complete with the settled draft, if its body ends. A
halt that a body comes to before is a failure, whatever it says. -/
theorem resolution_is_final {grammar : Grammar M} {needle : Needle} {d : Nat} {r : Rule}
    {draft : Draft} {memory : M} (hdraft : draft.resolved = false) :
    (∀ {log : List (Exchange Frame M)} {body : Body M Outcome} {frame : Frame} {memory' : M},
      Course (session (synthesize grammar needle d)) (grammar r.id) ⟨draft, false⟩ memory log
        body frame memory' →
      frame.draft.resolved = true →
      (∃ left value, Settles grammar needle (d + 1) r draft memory left value frame.draft) ∧
      Refuses (session (synthesize grammar needle d)) .resolved frame ∧
      synthesize grammar needle (d + 1) r draft memory =
        (body.whenRefused .resolved memory').map fun (_, memory) =>
          (.complete, frame.draft, memory)) ∧
    (∀ {log : List (Exchange Frame M)} {halt : Halt} {frame : Frame} {memory' : M},
      Course (session (synthesize grammar needle d)) (grammar r.id) ⟨draft, false⟩ memory log
        (.done (.error halt)) frame memory' →
      frame.draft.resolved = false →
      synthesize grammar needle (d + 1) r draft memory = some (.failed, draft, memory')) ∧
    (∀ {ending : Ending} {draft' : Draft} {memory' : M},
      synthesize grammar needle (d + 1) r draft memory = some (ending, draft', memory') →
      (draft'.resolved = true ↔ ending = .complete) ∧
      (ending = .complete ↔
        ∃ left value, Settles grammar needle (d + 1) r draft memory left value draft') ∧
      ∀ left value settled,
        Settles grammar needle (d + 1) r draft memory left value settled →
        ending = .complete ∧ draft' = settled) ∧
    (∀ {node : Node} {frame frame' : Frame} {pre post : List Candidate} {q : Rule}
        {draft₁ left settled : Draft} {value : Value} {reply : Reply}
        {memory₁ memory₂ memory₃ : M},
      frame.draft.resolved = false → frame.halted = false →
      node.candidates = pre ++ .rule q :: post →
      Passed (synthesize grammar needle d) pre frame.draft memory₁ draft₁ memory₂ →
      Settles grammar needle d q draft₁ memory₂ left value settled →
      session (synthesize grammar needle d) node frame memory₁ =
        some (reply, frame', memory₃) →
      reply = .error .resolved ∧ frame' = ⟨settled, false⟩) ∧
    (∀ {outcome : Inversion} {memory' : M},
      invert grammar (d + 1) needle r memory = some (outcome, memory') →
      ∀ components, outcome = .complete components ↔
        ∃ left value settled, Settles grammar needle (d + 1) r .empty memory left value settled ∧
          settled.components = components) := by
  refine ⟨?_, ?_, ?_, ?_, ?_⟩
  · intro log body frame memory' course hresolved
    exact ⟨settles_of_resolved hdraft course hresolved, refuses_of_resolved hresolved,
      synthesize_of_resolved course hresolved⟩
  · intro log halt frame memory' course hopen
    exact synthesize_of_halt hdraft course hopen
  · intro ending draft' memory' hended
    refine ⟨resolved_iff_complete hdraft hended, complete_iff_settles hdraft hended, ?_⟩
    intro left value settled hsettles
    exact hsettles.complete hended
  · intro node frame frame' pre post q draft₁ left settled value reply memory₁ memory₂ memory₃
      hopen hlive hnode hpre hsettles hreply
    exact session_of_settles hopen hlive hnode hpre hsettles hreply
  · intro outcome memory' hinvert components
    obtain ⟨⟨ending, draft', memory₁⟩, hended, houtcome⟩ := Option.map_eq_some_iff.1 hinvert
    obtain ⟨rfl, rfl⟩ := Prod.mk.inj houtcome
    constructor
    · intro hcomplete
      cases ending with
      | unfinished => cases hcomplete
      | failed => cases hcomplete
      | complete =>
          obtain rfl := Inversion.complete.inj hcomplete
          obtain ⟨left, value, hsettles⟩ := (complete_iff_settles rfl hended).1 rfl
          exact ⟨left, value, draft', hsettles, rfl⟩
    · rintro ⟨left, value, settled, hsettles, rfl⟩
      obtain ⟨rfl, rfl⟩ := hsettles.complete hended
      rfl

/-- A rule two levels down meets the needle. The one above it drops the halt and comes to
another value, the outermost goes on asking and turns everything down; the inversion is
complete with what stood there when the needle was met. A rule that only returns such a
halt fails. -/
theorem resolution_is_final_dropped :
    let grammar : Grammar Unit := fun
      | 0 => do
          let _ ← Body.ask (.literal "a")
          let _ ← Body.ask (.choice [.rule ⟨3, "forging"⟩, .rule ⟨1, "middle"⟩])
          let _ ← Body.ask (.literal "z")
          return .error (.rejected "no")
      | 1 => do
          let _ ← Body.ask (.rule ⟨2, "inner"⟩)
          return .ok (.string "other")
      | 2 => do
          let _ ← Body.ask (.literal "b")
          return .ok (.map [("key", .string "value")])
      | _ => return .error .resolved
    let needle := Needle.single "key" (.string "value") rfl
    Draft.empty.resolved = false ∧
      synthesize grammar needle 3 ⟨3, "forging"⟩ .empty () = some (.failed, .empty, ()) ∧
      invert grammar 3 needle ⟨0, "outer"⟩ () = some (.complete ["a", "b"], ()) ∧
      ∃ left value settled, Settles grammar needle 3 ⟨0, "outer"⟩ .empty () left value settled ∧
        settled.components = ["a", "b"] := by
  intro grammar needle
  have hempty : Draft.empty.resolved = false := rfl
  have hforging : Course (session (synthesize grammar needle 2)) (grammar 3) ⟨.empty, false⟩ ()
      [] (.done (.error .resolved)) ⟨.empty, false⟩ () := .here
  have hfailed := (resolution_is_final (r := ⟨3, "forging"⟩) hempty).2.1 hforging hempty
  have hinvert : invert grammar 3 needle ⟨0, "outer"⟩ () = some (.complete ["a", "b"], ()) := rfl
  have hsettles := (resolution_is_final hempty).2.2.2.2 hinvert ["a", "b"]
  exact ⟨hempty, hfailed, hinvert, hsettles.1 rfl⟩

end TwoWay.Backward
