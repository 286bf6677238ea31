import TwoWay.Proofs.Backward.Rollback

/-!
How the draft of an inversion comes about. Until the needle is met, a frame only
puts out texts and reserves components: what a failed rule did is taken back as
a whole, and an unfinished one has done no more than that either. So what these
two steps keep, every draft has that an inversion comes to before the needle is
met.

One such thing is that each slot has a component of its own, which is still
blank.
-/

namespace TwoWay.Backward

open Body (Course Exchange)

variable {M : Type}

/-- A draft that comes of `base` by putting out texts and reserving components. -/
inductive Draft.Grows (base : Draft) : Draft → Prop where
  | refl : Grows base base
  | push {d : Draft} (text : String) : Grows base d → Grows base (d.push text)
  | reserve {d : Draft} (p : Pattern) : Grows base d → Grows base (d.reserve p).2

namespace Draft.Grows

variable {base d d' : Draft}

theorem trans (h : base.Grows d) (h' : d.Grows d') : base.Grows d' := by
  induction h' with
  | refl => exact h
  | push text _ ih => exact .push text ih
  | reserve p _ ih => exact .reserve p ih

end Draft.Grows

def Runner.Growing (run : Runner M) : Prop :=
  ∀ ⦃r draft memory draft' memory'⦄, draft.resolved = false →
    run r draft memory = some (.unfinished, draft', memory') → draft.Grows draft'

def Frame.Grown (base : Draft) (frame : Frame) : Prop :=
  frame.draft.resolved = true ∨ base.Grows frame.draft

theorem Frame.Grown.grows {base : Draft} {frame : Frame} (h : frame.Grown base)
    (hlive : frame.draft.resolved = false) : base.Grows frame.draft := by
  rcases h with hresolved | hgrows
  · simp [hlive] at hresolved
  · exact hgrows

section Step

variable {run : Runner M} {memory memory' : M}

theorem attempt_grows (hatomic : run.Atomic) (hgrowing : run.Growing) {c : Candidate}
    {draft draft' : Draft} {reply : Reply} (hlive : draft.resolved = false)
    (hc : attempt run c draft memory = some (some reply, draft', memory')) :
    draft'.resolved = true ∨ draft.Grows draft' := by
  rcases attempt_cases hc with ⟨text, _, _, rfl, _⟩ | ⟨_, _, _, _, rfl, _⟩ |
    ⟨p, _, _, _, rfl, _⟩ | ⟨r, ending, _, hr, hsome⟩
  · exact Or.inr (.push text .refl)
  · exact Or.inr .refl
  · exact Or.inr (.reserve p .refl)
  · cases ending with
    | complete => exact Or.inl (hatomic hlive hr)
    | unfinished => exact Or.inr (hgrowing hlive hr)
    | failed => cases hsome

theorem session_grown (hatomic : run.Atomic) (hgrowing : run.Growing) {base : Draft}
    {node : Node} {frame frame' : Frame} {reply : Reply}
    (hreply : session run node frame memory = some (reply, frame', memory'))
    (hframe : frame.Grown base) : frame'.Grown base := by
  rcases draft_of_session hatomic hreply with hsame | ⟨c, memory₁, hlive, hc⟩
  · unfold Frame.Grown
    rw [hsame]
    exact hframe
  · rcases attempt_grows hatomic hgrowing hlive hc with hresolved | hgrows
    · exact Or.inl hresolved
    · exact Or.inr ((hframe.grows hlive).trans hgrows)

end Step

section Walk

variable {grammar : Grammar M} {needle : Needle}

/-- By induction on the depth: an unfinished rule leaves the draft of its frame,
which has grown by what each request has let it grow. -/
theorem synthesize_growing (grammar : Grammar M) (needle : Needle) (depth : Nat) :
    Runner.Growing (synthesize grammar needle depth) := by
  induction depth with
  | zero =>
      intro r draft memory draft' memory' _ hrun
      simp [synthesize] at hrun
  | succ depth ih =>
      intro r draft memory draft' memory' hlive hrun
      have hkept : draft'.Keeps draft := synthesize_atomic grammar needle (depth + 1) hlive hrun
      obtain ⟨outcome, frame, hbody, hfinish⟩ := synthesize_succ_eq_some.1 hrun
      obtain ⟨log, course⟩ := Body.course_of_run hbody
      have hgrown : frame.Grown draft :=
        course.preserves
          (fun _ _ _ _ _ _ hreply =>
            session_grown (synthesize_atomic grammar needle depth) ih hreply)
          (Or.inr .refl)
      cases hresolved : frame.draft.resolved with
      | true =>
          rw [finish_of_resolved hresolved] at hfinish
          cases hfinish
      | false =>
          rcases finish_cases hresolved hfinish with ⟨hfailed, _⟩ | ⟨_, _, _, rfl⟩ |
            ⟨_, hcomplete, _⟩
          · cases hfailed
          · exact hgrown.grows hresolved
          · cases hcomplete

theorem course_grows {d : Nat} {body body' : Body M Outcome} {start : Draft}
    {memory memory' : M} {log : List (Exchange Frame M)} {frame : Frame}
    (course : Course (session (synthesize grammar needle d)) body ⟨start, false⟩ memory log body'
      frame memory')
    (hlive : frame.draft.resolved = false) : start.Grows frame.draft := by
  have hgrown : frame.Grown start :=
    course.preserves
      (fun _ _ _ _ _ _ hreply =>
        session_grown (synthesize_atomic grammar needle d) (synthesize_growing grammar needle d)
          hreply)
      (Or.inr .refl)
  exact hgrown.grows hlive

theorem Opens.grows {depth d : Nat} {r q : Rule} {draft start : Draft} {memory memory' : M}
    (opens : Opens grammar needle depth r draft memory d q start memory') :
    draft.Grows start := by
  induction opens with
  | own => exact .refl
  | @nested d q q' start draft' memory₁ memory₂ memory₃ log node next frame pre post _ course
      hopen _ _ hpre ih =>
      rw [hpre.draft_eq (synthesize_atomic grammar needle d) hopen]
      exact ih.trans (course_grows course hopen)

end Walk

namespace Draft

/-- Each slot has a blank component, and later slots have later ones. -/
structure Reserved (d : Draft) : Prop where
  blank : ∀ slot ∈ d.slots, d.components[slot.component]? = some ""
  increasing : d.slots.Pairwise fun a b => a.component < b.component

theorem reserved_empty : Draft.empty.Reserved := ⟨by simp [empty], .nil⟩

variable {d d' : Draft}

theorem Reserved.lt (h : d.Reserved) {slot : Slot} (hslot : slot ∈ d.slots) :
    slot.component < d.components.length := by
  obtain ⟨hlt, _⟩ := List.getElem?_eq_some_iff.1 (h.blank slot hslot)
  exact hlt

theorem Reserved.push (h : d.Reserved) (text : String) : (d.push text).Reserved := by
  refine ⟨fun slot hslot => ?_, h.increasing⟩
  show (d.components ++ [text])[slot.component]? = some ""
  rw [List.getElem?_append_left (h.lt hslot)]
  exact h.blank slot hslot

theorem Reserved.reserve (h : d.Reserved) (p : Pattern) : (d.reserve p).2.Reserved := by
  constructor
  · intro slot hslot
    show (d.components ++ [""])[slot.component]? = some ""
    rcases List.mem_append.1 hslot with hold | hnew
    · rw [List.getElem?_append_left (h.lt hold)]
      exact h.blank slot hold
    · obtain rfl := List.mem_singleton.1 hnew
      simp
  · refine List.pairwise_append.2 ⟨h.increasing, List.pairwise_singleton _ _, ?_⟩
    intro slot hslot last hlast
    obtain rfl := List.mem_singleton.1 hlast
    exact h.lt hslot

theorem Reserved.grows (h : d.Reserved) (hgrows : d.Grows d') : d'.Reserved := by
  induction hgrows with
  | refl => exact h
  | push text _ ih => exact ih.push text
  | reserve p _ ih => exact ih.reserve p

/-- The slots have components among those of the draft, and later slots have later ones. -/
structure Spaced (d : Draft) : Prop where
  bound : ∀ slot ∈ d.slots, slot.component < d.components.length
  increasing : d.slots.Pairwise fun a b => a.component < b.component

theorem Reserved.spaced (h : d.Reserved) : d.Spaced :=
  ⟨fun _ hslot => h.lt hslot, h.increasing⟩

theorem Spaced.place_eq (h : d.Spaced) {i j : Nat} {a b : Slot} (ha : d.slots[i]? = some a)
    (hb : d.slots[j]? = some b) (heq : a.component = b.component) : i = j := by
  obtain ⟨hi, rfl⟩ := List.getElem?_eq_some_iff.1 ha
  obtain ⟨hj, rfl⟩ := List.getElem?_eq_some_iff.1 hb
  have hsorted := List.pairwise_iff_getElem.1 h.increasing
  rcases Nat.lt_trichotomy i j with hlt | hij | hgt
  · exact absurd heq (Nat.ne_of_lt (hsorted i j hi hj hlt))
  · exact hij
  · exact absurd heq.symm (Nat.ne_of_lt (hsorted j i hj hi hgt))

end Draft

theorem Opens.reserved {grammar : Grammar M} {needle : Needle} {depth d : Nat} {r q : Rule}
    {draft start : Draft} {memory memory₁ memory₂ : M} {log : List (Exchange Frame M)}
    {body : Body M Outcome} {frame : Frame} (hdraft : draft.Reserved)
    (opens : Opens grammar needle depth r draft memory (d + 1) q start memory₁)
    (course : Course (session (synthesize grammar needle d)) (grammar q.id) ⟨start, false⟩
      memory₁ log body frame memory₂)
    (hlive : frame.draft.resolved = false) : frame.draft.Reserved :=
  hdraft.grows (opens.grows.trans (course_grows course hlive))

end TwoWay.Backward
