import TwoWay.Proofs.Backward.Finality

/-!
The table of slots all through an inversion. Components and slots are cut back to two
lengths, and settling writes into components in place; so it has to be seen that the two
lists stay in step. In every draft that an inversion comes to, slots have components of the
draft, later slots later ones, and as long as the needle is unmet these components are
blank.

A handle is a place in the table. The table that a frame has had is from then on the first
part of every table until its body ends, in the frame and in all frames below: rules that
fail are cut back to what they began with, and other rules only add to it. So what a handle
of the frame denotes does not change.
-/

namespace TwoWay.Backward

open Body (Course Exchange)

variable {M : Type}

namespace Draft

variable {base d d' : Draft} {needle : Needle} {value : Value}

theorem Grows.resolved_eq (h : base.Grows d) : d.resolved = base.resolved := by
  induction h with
  | refl => rfl
  | push text _ ih => exact ih
  | reserve p _ ih => exact ih

theorem Grows.keeps_slots (h : base.Grows d) : base.slots <+: d.slots := by
  induction h with
  | refl => exact List.prefix_refl _
  | push text _ ih => exact ih
  | reserve p _ ih => exact ih.trans (List.prefix_append _ _)

theorem slots_settle? (h : d.settle? needle value = some d') : d'.slots = d.slots := by
  obtain ⟨_, writes, _, _, _, rfl⟩ := settle?_eq_some.1 h
  rfl

theorem Spaced.settle (hspaced : d.Spaced) (h : d.settle? needle value = some d') : d'.Spaced := by
  have hslots := slots_settle? h
  have hlength := length_settle? h
  constructor
  · intro slot hslot
    rw [hslots] at hslot
    rw [hlength]
    exact hspaced.bound slot hslot
  · rw [hslots]
    exact hspaced.increasing

theorem Spaced.write_lt (hspaced : d.Spaced) {fields : List (String × Value)}
    {writes : List (Nat × String)} (hwrites : d.writesFor? value fields = some writes) :
    ∀ w ∈ writes, w.1 < d.components.length := by
  intro w hw
  obtain ⟨_, _, _, slot, _, hslot, _, heq⟩ := slot_of_mem_writes hwrites hw
  rw [← heq]
  exact hspaced.bound slot (List.mem_of_getElem? hslot)

end Draft

/-- The drafts that an inversion comes to: those of the moments of its frames, and those
that its rules leave at their ends. -/
inductive Reaches (grammar : Grammar M) (needle : Needle) (r : Rule) (memory : M) :
    Draft → Prop where
  | moment {depth d : Nat} {q : Rule} {start : Draft} {memory₁ memory₂ : M}
      {log : List (Exchange Frame M)} {body : Body M Outcome} {frame : Frame} :
      Opens grammar needle depth r .empty memory (d + 1) q start memory₁ →
      Course (session (synthesize grammar needle d)) (grammar q.id) ⟨start, false⟩ memory₁ log
        body frame memory₂ →
      Reaches grammar needle r memory frame.draft
  | ended {depth d : Nat} {q : Rule} {start draft' : Draft} {memory₁ memory₂ : M}
      {ending : Ending} :
      Opens grammar needle depth r .empty memory d q start memory₁ →
      synthesize grammar needle d q start memory₁ = some (ending, draft', memory₂) →
      Reaches grammar needle r memory draft'

/-- The drafts of the moments of a frame from one of them on, and of the frames below it
that are opened from then on. What is left of its body at the first moment is `body`. -/
inductive During (grammar : Grammar M) (needle : Needle) (d : Nat) (body : Body M Outcome)
    (frame : Frame) (memory : M) : Draft → Prop where
  | own {log : List (Exchange Frame M)} {body' : Body M Outcome} {frame' : Frame}
      {memory' : M} :
      Course (session (synthesize grammar needle d)) body frame memory log body' frame' memory' →
      During grammar needle d body frame memory frame'.draft
  | below {log log' : List (Exchange Frame M)} {node : Node} {next : Reply → Body M Outcome}
      {frame₁ frame₂ : Frame} {pre post : List Candidate} {q q' : Rule} {d' : Nat}
      {draft start : Draft} {body' : Body M Outcome} {memory₁ memory₂ memory₃ memory₄ : M} :
      Course (session (synthesize grammar needle d)) body frame memory log (.request node next)
        frame₁ memory₁ →
      frame₁.draft.resolved = false → frame₁.halted = false →
      node.candidates = pre ++ .rule q :: post →
      Passed (synthesize grammar needle d) pre frame₁.draft memory₁ draft memory₂ →
      Opens grammar needle d q draft memory₂ (d' + 1) q' start memory₃ →
      Course (session (synthesize grammar needle d')) (grammar q'.id) ⟨start, false⟩ memory₃ log'
        body' frame₂ memory₄ →
      During grammar needle d body frame memory frame₂.draft

section Walk

variable {grammar : Grammar M} {needle : Needle} {depth d : Nat} {r q : Rule}
  {draft draft' start left settled : Draft} {value : Value} {memory memory' memory₁ : M}
  {ending : Ending} {log : List (Exchange Frame M)} {body body' : Body M Outcome}
  {frame frame' : Frame}

theorem Settles.grows (h : Settles grammar needle depth r draft memory left value settled) :
    draft.Grows left := by
  obtain ⟨opens, course, _, _, hopen, _⟩ := h
  exact opens.grows.trans (course_grows course hopen)

theorem Settles.spaced (hdraft : draft.Reserved)
    (h : Settles grammar needle depth r draft memory left value settled) : settled.Spaced :=
  (h.reserved hdraft).spaced.settle h.settle?_eq

theorem synthesize_keeps_slots (hdraft : draft.resolved = false)
    (hended : synthesize grammar needle d q draft memory = some (ending, draft', memory')) :
    draft.slots <+: draft'.slots := by
  have hleaves := synthesize_atomic grammar needle d hdraft hended
  cases ending with
  | complete =>
      obtain ⟨left, value, hsettles⟩ := (complete_iff_settles hdraft hended).1 rfl
      rw [Draft.slots_settle? hsettles.settle?_eq]
      exact hsettles.grows.keeps_slots
  | unfinished =>
      have hkeeps : draft'.Keeps draft := hleaves
      exact hkeeps.slots
  | failed =>
      obtain rfl : draft' = draft := hleaves
      exact List.prefix_refl _

theorem session_keeps_slots {node : Node} {reply : Reply}
    (hreply : session (synthesize grammar needle d) node frame memory =
      some (reply, frame', memory')) :
    frame.draft.slots <+: frame'.draft.slots := by
  have hmoved := draft_of_session (synthesize_atomic grammar needle d) hreply
  rcases hmoved with hsame | ⟨c, memory₁, hopen, hc⟩
  · exact ⟨[], by simp [hsame]⟩
  · rcases attempt_cases hc with ⟨text, _, _, hdraft, _⟩ | ⟨_, _, _, _, hdraft, _⟩ |
      ⟨p, _, _, _, hdraft, _⟩ | ⟨r, ending, _, hr, _⟩
    · exact ⟨[], by simp [hdraft, Draft.push]⟩
    · exact ⟨[], by simp [hdraft]⟩
    · exact ⟨[⟨frame.draft.components.length, p⟩], by simp [hdraft, Draft.reserve]⟩
    · exact synthesize_keeps_slots hopen hr

theorem course_keeps_slots
    (course : Course (session (synthesize grammar needle d)) body frame memory log body' frame'
      memory') :
    frame.draft.slots <+: frame'.draft.slots :=
  course.preserves (P := fun reached => frame.draft.slots <+: reached.draft.slots)
    (fun _ _ _ _ _ _ hreply hprefix => hprefix.trans (session_keeps_slots hreply))
    (List.prefix_refl _)

/-- Until the body of a frame ends, its table is the first part of every table. -/
theorem During.keeps_slots (h : During grammar needle d body frame memory draft) :
    frame.draft.slots <+: draft.slots := by
  cases h with
  | own course => exact course_keeps_slots course
  | below course hopen _ _ hpre opens inner =>
      obtain rfl := hpre.draft_eq (synthesize_atomic grammar needle d) hopen
      exact (course_keeps_slots course).trans
        (opens.grows.keeps_slots.trans (course_keeps_slots inner))

theorem Opens.start_reserved
    (opens : Opens grammar needle depth r .empty memory d q start memory₁) :
    start.Reserved ∧ start.resolved = false :=
  ⟨Draft.reserved_empty.grows opens.grows, opens.grows.resolved_eq⟩

/-- Every draft that an inversion comes to has its slots in step with its components. By
what it is: before the needle is met it has only grown, and after that it is one that had
grown and was settled. -/
theorem Reaches.spaced (h : Reaches grammar needle r memory draft) :
    draft.Spaced ∧ (draft.resolved = false → draft.Reserved) := by
  cases h with
  | @moment depth d q start memory₁ memory₂ log body frame opens course =>
      obtain ⟨hreserved, hstart⟩ := opens.start_reserved
      cases hresolved : frame.draft.resolved with
      | false =>
          have hframe := opens.reserved Draft.reserved_empty course hresolved
          exact ⟨hframe.spaced, fun _ => hframe⟩
      | true =>
          obtain ⟨left, value, hsettles⟩ := settles_of_resolved hstart course hresolved
          exact ⟨hsettles.spaced hreserved, fun hopen => by simp at hopen⟩
  | @ended depth d q start draft' memory₁ memory₂ ending opens hended =>
      obtain ⟨hreserved, hstart⟩ := opens.start_reserved
      have hleaves := synthesize_atomic grammar needle d hstart hended
      cases ending with
      | complete =>
          have hresolved : draft.resolved = true := hleaves
          obtain ⟨left, value, hsettles⟩ := (complete_iff_settles hstart hended).1 rfl
          exact ⟨hsettles.spaced hreserved, fun hopen => by simp [hresolved] at hopen⟩
      | unfinished =>
          have hdraft := hreserved.grows (synthesize_growing grammar needle d hstart hended)
          exact ⟨hdraft.spaced, fun _ => hdraft⟩
      | failed =>
          obtain rfl : draft = start := hleaves
          exact ⟨hreserved.spaced, fun _ => hreserved⟩

theorem slot_of_answer {node : Node} {found : Pattern.Match} {handle : Handle}
    (hreply : session (synthesize grammar needle d) node frame memory =
      some (.ok (.pattern found), frame', memory'))
    (hhandle : found.text = .slot handle) :
    ∃ p, .pattern p ∈ node.candidates ∧ p.zeroWidth = false ∧
      handle.index = frame.draft.slots.length ∧
      frame'.draft.slots[handle.index]? = some ⟨frame.draft.components.length, p⟩ := by
  rcases session_cases hreply with ⟨_, herror, _⟩ | ⟨_, _, herror, _⟩ |
    ⟨hopen, _, pre, c, post, draft₁, memory₁, draft₂, hnode, hpre, hc, rfl⟩ |
    ⟨_, _, _, _, herror, _⟩
  · cases herror
  · cases herror
  · obtain rfl := hpre.draft_eq (synthesize_atomic grammar needle d) hopen
    rcases attempt_cases hc with ⟨_, _, hanswer, _⟩ | ⟨p, _, _, hanswer, _⟩ |
      ⟨p, rfl, htakes, hanswer, rfl, _⟩ | ⟨_, ending, _, _, hanswer⟩
    · cases hanswer
    · obtain rfl : found = .empty := by simpa using hanswer
      cases hhandle
    · obtain rfl : found = .placeholder (frame.draft.reserve p).1 := by simpa using hanswer
      obtain rfl : (frame.draft.reserve p).1 = handle := by
        simpa [Pattern.Match.placeholder] using hhandle
      refine ⟨p, by simp [hnode], htakes, rfl, ?_⟩
      simp [Draft.reserve]
    · cases ending <;> cases hanswer
  · cases herror

end Walk

/-- The table of slots in every draft that an inversion comes to: slots have components of the
draft, later slots later ones, and they are blank as long as the needle is unmet. A handle that a
request is answered with is the place of a new slot, for the pattern that was asked for and the
next component, and denotes it in every draft until the body of the frame ends, at the moments of
the frame and of all frames below it. -/
theorem slot_table_sound {grammar : Grammar M} {needle : Needle} :
    (∀ {r : Rule} {memory : M} {draft : Draft}, Reaches grammar needle r memory draft →
      draft.slots.Pairwise (fun a b => a.component < b.component) ∧
      (∀ slot ∈ draft.slots, slot.component < draft.components.length) ∧
      (draft.resolved = false →
        ∀ slot ∈ draft.slots, draft.components[slot.component]? = some "") ∧
      ∀ {value : Value} {writes : List (Nat × String)},
        draft.writesFor? value needle.fields = some writes →
        ∀ w ∈ writes, w.1 < draft.components.length) ∧
    (∀ {d : Nat} {node : Node} {frame frame' : Frame} {memory memory' : M}
        {found : Pattern.Match} {handle : Handle},
      session (synthesize grammar needle d) node frame memory =
        some (.ok (.pattern found), frame', memory') →
      found.text = .slot handle →
      ∃ p, .pattern p ∈ node.candidates ∧ p.zeroWidth = false ∧
        handle.index = frame.draft.slots.length ∧
        ∀ {body : Body M Outcome} {draft : Draft},
          During grammar needle d body frame' memory' draft →
          draft.slots[handle.index]? = some ⟨frame.draft.components.length, p⟩) := by
  constructor
  · intro r memory draft hreaches
    obtain ⟨hspaced, hreserved⟩ := hreaches.spaced
    exact ⟨hspaced.increasing, hspaced.bound, fun hopen => (hreserved hopen).blank,
      fun hwrites => hspaced.write_lt hwrites⟩
  · intro d node frame frame' memory memory' found handle hreply hhandle
    obtain ⟨p, hmem, htakes, hindex, hslot⟩ := slot_of_answer hreply hhandle
    refine ⟨p, hmem, htakes, hindex, ?_⟩
    intro body draft hduring
    obtain ⟨added, hadded⟩ := hduring.keeps_slots
    obtain ⟨hlt, _⟩ := List.getElem?_eq_some_iff.1 hslot
    rw [← hadded, List.getElem?_append_left hlt]
    exact hslot

/-- A rule that reserves a component, and then tries a rule that reserves another and fails
and one that does the same and stays unfinished. At a moment of the rule that fails and
after both the first handle denotes the first slot. -/
theorem slot_table_sound_nested :
    let digit : Pattern :=
      Standard.anchored "^[0-9]" (.seq (.look .startText) (.chars (.interval '0' '9')))
    let nested : Body Unit Outcome :=
      Standard.sequence [.choice [.rule ⟨1, "failing"⟩, .rule ⟨2, "unfinished"⟩]]
    let grammar : Grammar Unit := fun
      | 0 => do
          let _ ← Body.ask (.literal "<")
          let _ ← Body.ask (.pattern digit)
          nested
      | 1 => Standard.sequence [.pattern digit, .choice []]
      | _ => Standard.sequence [.literal "-", .pattern digit]
    let needle := Needle.single "key" (.string "value") rfl
    let before : Frame := ⟨⟨["<"], [], false⟩, false⟩
    let after : Frame := ⟨⟨["<", ""], [⟨1, digit⟩], false⟩, false⟩
    let failing : Draft := ⟨["<", "", ""], [⟨1, digit⟩, ⟨2, digit⟩], false⟩
    let last : Draft := ⟨["<", "", "-", ""], [⟨1, digit⟩, ⟨3, digit⟩], false⟩
    session (synthesize grammar needle 1) (.pattern digit) before () =
        some (.ok (.pattern (.placeholder ⟨0⟩)), after, ()) ∧
      (During grammar needle 1 nested after () failing ∧
        failing.slots[0]? = some ⟨1, digit⟩) ∧
      (During grammar needle 1 nested after () last ∧ last.slots[0]? = some ⟨1, digit⟩) ∧
      Reaches grammar needle ⟨0, "outer"⟩ () last ∧
      last.slots.Pairwise fun a b => a.component < b.component := by
  intro digit nested grammar needle before after failing last
  have hreply : session (synthesize grammar needle 1) (.pattern digit) before () =
      some (.ok (.pattern (.placeholder ⟨0⟩)), after, ()) := rfl
  have hrest : Course (session (synthesize grammar needle 1)) nested after () _
      (.done (.ok .nil)) ⟨last, false⟩ () := .request rfl .here
  have hnode : (Node.choice [.rule ⟨1, "failing"⟩, .rule ⟨2, "unfinished"⟩]).candidates =
      [] ++ .rule ⟨1, "failing"⟩ :: [.rule ⟨2, "unfinished"⟩] := rfl
  have hopens : Opens grammar needle 1 ⟨1, "failing"⟩ after.draft () 1 ⟨1, "failing"⟩
      after.draft () := .own
  have hinner : Course (session (synthesize grammar needle 0)) (grammar 1)
      ⟨after.draft, false⟩ () _ (Standard.sequence [.choice []]) ⟨failing, false⟩ () :=
    .request rfl .here
  have hfailing : During grammar needle 1 nested after () failing :=
    .below .here rfl rfl hnode .nil hopens hinner
  have hlast : During grammar needle 1 nested after () last := .own hrest
  have hown : Opens grammar needle 2 ⟨0, "outer"⟩ .empty () 2 ⟨0, "outer"⟩ .empty () := .own
  have hcourse : Course (session (synthesize grammar needle 1)) (grammar 0) ⟨.empty, false⟩ () _
      (.done (.ok .nil)) ⟨last, false⟩ () := .request rfl (.request rfl hrest)
  have hreaches : Reaches grammar needle ⟨0, "outer"⟩ () last := .moment hown hcourse
  obtain ⟨hsound, hhandles⟩ := @slot_table_sound Unit grammar needle
  obtain ⟨p, hmem, _, _, hstays⟩ := hhandles hreply rfl
  obtain rfl : p = digit := by simpa [Node.candidates, Node.pattern] using hmem
  exact ⟨hreply, ⟨hfailing, hstays hfailing⟩, ⟨hlast, hstays hlast⟩, hreaches,
    (hsound hreaches).1⟩

end TwoWay.Backward
