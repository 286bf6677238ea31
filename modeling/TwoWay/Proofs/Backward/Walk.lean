import TwoWay.Proofs.Backward.Attempt

/-!
How a rule is inverted. Its body runs to its end, and the frame that it leaves says how
the rule ends: once the needle is met it can only be complete, after that a failed request
decides.

A greater depth changes no inversion, and bodies that act through their sessions alone are
inverted alike whatever the memory holds.
-/

namespace TwoWay.Backward

open Body (Course Exchange Refuses)

variable {M : Type}

section Walk

variable {grammar : Grammar M} {needle : Needle} {depth : Nat} {r : Rule}
  {draft draft' : Draft} {memory memory' : M} {ending : Ending}

theorem synthesize_succ :
    synthesize grammar needle (depth + 1) r draft memory =
      ((grammar r.id).run (session (synthesize grammar needle depth)) ⟨draft, false⟩ memory).map
        fun (outcome, frame, memory) =>
          ((frame.finish needle draft outcome).1, (frame.finish needle draft outcome).2,
            memory) := by
  simp only [synthesize]
  cases (grammar r.id).run (session (synthesize grammar needle depth)) ⟨draft, false⟩ memory <;> rfl

/-- An inversion of a rule that ends is a run of its body, and the frame that
this leaves decides how it ends. -/
theorem synthesize_succ_eq_some :
    synthesize grammar needle (depth + 1) r draft memory = some (ending, draft', memory') ↔
      ∃ outcome frame,
        (grammar r.id).run (session (synthesize grammar needle depth)) ⟨draft, false⟩ memory =
          some (outcome, frame, memory') ∧
        frame.finish needle draft outcome = (ending, draft') := by
  simp only [synthesize]
  cases (grammar r.id).run (session (synthesize grammar needle depth)) ⟨draft, false⟩ memory with
  | none => simp
  | some ended =>
      obtain ⟨outcome, frame, memory₁⟩ := ended
      simp only [Option.some.injEq, Prod.mk.injEq]
      constructor
      · rintro ⟨rfl, rfl, rfl⟩
        exact ⟨outcome, frame, ⟨rfl, rfl, rfl⟩, rfl⟩
      · rintro ⟨outcome', frame', ⟨rfl, rfl, rfl⟩, hfinish⟩
        rw [hfinish]
        exact ⟨rfl, rfl, rfl⟩

theorem finish_of_resolved {frame : Frame} (hresolved : frame.draft.resolved = true)
    (mark : Draft) (outcome : Outcome) :
    frame.finish needle mark outcome = (.complete, frame.draft) := by
  simp [Frame.finish, hresolved]

theorem finish_of_settle {mark settled : Draft} {value : Value} (hopen : draft.resolved = false)
    (hsettle : draft.settle? needle value = some settled) :
    Frame.finish needle mark ⟨draft, false⟩ (.ok value) = (.complete, settled) := by
  cases value with
  | nil => cases hsettle
  | number _ | string _ | bool _ | list _ | map _ | slot _ =>
      simp [Frame.finish, hopen, hsettle]

theorem finish_cases {mark : Draft} {frame : Frame} {outcome : Outcome}
    (hopen : frame.draft.resolved = false)
    (hfinish : frame.finish needle mark outcome = (ending, draft')) :
    (ending = .failed ∧ draft' = frame.draft.rollback mark) ∨
    (frame.halted = false ∧ outcome = .ok .nil ∧ ending = .unfinished ∧
      draft' = frame.draft) ∨
    (frame.halted = false ∧ ending = .complete ∧
      ∃ value, value ≠ .nil ∧ outcome = .ok value ∧
        frame.draft.settle? needle value = some draft') := by
  unfold Frame.finish at hfinish
  simp only [hopen, Bool.false_eq_true, if_false] at hfinish
  split at hfinish
  · obtain ⟨rfl, rfl⟩ := Prod.mk.inj hfinish
    exact Or.inl ⟨rfl, rfl⟩
  · rename_i hhalted
    have hrunning : frame.halted = false := Bool.eq_false_iff.2 hhalted
    split at hfinish
    · obtain ⟨rfl, rfl⟩ := Prod.mk.inj hfinish
      exact Or.inl ⟨rfl, rfl⟩
    · obtain ⟨rfl, rfl⟩ := Prod.mk.inj hfinish
      exact Or.inr (Or.inl ⟨hrunning, rfl, rfl, rfl⟩)
    · rename_i value hvalue
      have hne : value ≠ .nil := hvalue
      split at hfinish
      · rename_i settled hsettle
        obtain ⟨rfl, rfl⟩ := Prod.mk.inj hfinish
        exact Or.inr (Or.inr ⟨hrunning, rfl, value, hne, rfl, hsettle⟩)
      · obtain ⟨rfl, rfl⟩ := Prod.mk.inj hfinish
        exact Or.inl ⟨rfl, rfl⟩

section Course

variable {q : Rule} {start : Draft} {d : Nat} {log : List (Exchange Frame M)}
  {body : Body M Outcome} {frame : Frame}

theorem synthesize_of_done {outcome : Outcome}
    (course : Course (session (synthesize grammar needle d)) (grammar q.id) ⟨start, false⟩ memory
      log (.done outcome) frame memory') :
    synthesize grammar needle (d + 1) q start memory =
      some ((frame.finish needle start outcome).1, (frame.finish needle start outcome).2,
        memory') := by
  rw [synthesize_succ, course.run_eq]
  rfl

/-- From the moment at which the needle is met a rule can only end complete with the
draft of that moment, if its body comes to an end. -/
theorem synthesize_of_resolved
    (course : Course (session (synthesize grammar needle d)) (grammar q.id) ⟨start, false⟩ memory
      log body frame memory')
    (hresolved : frame.draft.resolved = true) :
    synthesize grammar needle (d + 1) q start memory =
      (body.whenRefused .resolved memory').map fun (_, memory) =>
        (.complete, frame.draft, memory) := by
  have hrefuses : Refuses (session (synthesize grammar needle d)) .resolved frame :=
    refuses_of_resolved hresolved
  rw [synthesize_succ, course.run_eq, hrefuses.run_eq, Option.map_map]
  congr 1
  funext ended
  simp [finish_of_resolved hresolved]

theorem session_of_ended {node : Node} {next : Reply → Body M Outcome}
    {ended : Ending × Draft × M}
    (hended : synthesize grammar needle (d + 1) q start memory = some ended)
    (course : Course (session (synthesize grammar needle d)) (grammar q.id) ⟨start, false⟩ memory
      log (.request node next) frame memory') :
    ∃ result, session (synthesize grammar needle d) node frame memory' = some result := by
  rw [synthesize_succ, course.run_eq] at hended
  cases hreply : session (synthesize grammar needle d) node frame memory' with
  | none => simp [Body.run, hreply] at hended
  | some result => exact ⟨result, rfl⟩

/-- A rule on the way of which another completes is told so, and completes with the draft
of that rule, if it comes to its end. -/
theorem complete_of_nested {ended : Ending × Draft × M} {node : Node}
    {next : Reply → Body M Outcome} {pre post : List Candidate} {q' : Rule}
    {draft₁ settled : Draft} {memory₁ memory₂ : M}
    (hended : synthesize grammar needle (d + 1) q start memory = some ended)
    (course : Course (session (synthesize grammar needle d)) (grammar q.id) ⟨start, false⟩ memory
      log (.request node next) frame memory')
    (hopen : frame.draft.resolved = false) (hlive : frame.halted = false)
    (hnode : node.candidates = pre ++ .rule q' :: post)
    (hpre : Passed (synthesize grammar needle d) pre frame.draft memory' draft₁ memory₁)
    (hq : synthesize grammar needle d q' draft₁ memory₁ = some (.complete, settled, memory₂))
    (hresolved : settled.resolved = true) : ended.1 = .complete ∧ ended.2.1 = settled := by
  have htold := session_of_complete hopen hlive hnode hpre hq
  have hreached := course.trans (.request htold .here)
  rw [synthesize_of_resolved hreached hresolved] at hended
  obtain ⟨_, _, rfl⟩ := Option.map_eq_some_iff.1 hended
  exact ⟨rfl, rfl⟩

end Course

end Walk

section Depth

def Runner.Within (run larger : Runner M) : Prop :=
  ∀ ⦃r draft memory result⦄,
    run r draft memory = some result → larger r draft memory = some result

variable {run larger : Runner M}

theorem attempt_of_rule {c : Candidate} {draft : Draft} {memory : M}
    (hrule : ∀ {r : Rule} {ended : Ending × Draft × M}, c = .rule r →
      run r draft memory = some ended → larger r draft memory = some ended)
    {found : Option Reply × Draft × M} (hc : attempt run c draft memory = some found) :
    attempt larger c draft memory = some found := by
  cases c with
  | literal text => exact hc
  | pattern p => exact hc
  | rule r =>
      simp only [attempt] at hc ⊢
      cases hr : run r draft memory with
      | none => simp [hr] at hc
      | some ended =>
          rw [hr] at hc
          rw [hrule rfl hr]
          exact hc

theorem attempt_within (hwithin : run.Within larger) {c : Candidate} {draft : Draft} {memory : M}
    {found : Option Reply × Draft × M} (hc : attempt run c draft memory = some found) :
    attempt larger c draft memory = some found :=
  attempt_of_rule (fun _ hr => hwithin hr) hc

theorem Passed.within (hwithin : run.Within larger) {candidates : List Candidate}
    {draft draft' : Draft} {memory memory' : M}
    (h : Passed run candidates draft memory draft' memory') :
    Passed larger candidates draft memory draft' memory' := by
  induction h with
  | nil => exact .nil
  | cons hc _ ih => exact .cons (attempt_within hwithin hc) ih

theorem session_within (hwithin : run.Within larger) :
    Body.Within (session run) (session larger) := by
  intro node frame memory result hrun
  obtain ⟨reply, frame', memory'⟩ := result
  rcases session_cases hrun with ⟨hresolved, rfl, rfl, rfl⟩ | ⟨hopen, hhalted, rfl, rfl, rfl⟩ |
    ⟨hopen, hlive, pre, c, post, draft₁, memory₁, draft₂, hnode, hpre, hc, rfl⟩ |
    ⟨hopen, hlive, draft₁, hnode, rfl, rfl⟩
  · exact refuses_of_resolved hresolved node memory'
  · exact refuses_of_halted hopen hhalted node memory'
  · exact session_of_attempt hopen hlive hnode (hpre.within hwithin) (attempt_within hwithin hc)
  · exact session_of_passed hopen hlive (hnode.within hwithin)

theorem synthesize_within_succ (grammar : Grammar M) (needle : Needle) (depth : Nat) :
    Runner.Within (synthesize grammar needle depth) (synthesize grammar needle (depth + 1)) := by
  induction depth with
  | zero =>
      intro r draft memory result hrun
      simp [synthesize] at hrun
  | succ depth ih =>
      intro r draft memory result hrun
      rw [synthesize_succ] at hrun ⊢
      obtain ⟨ended, hbody, hended⟩ := Option.map_eq_some_iff.1 hrun
      rw [Body.run_within (session_within ih) hbody]
      exact congrArg some hended

theorem synthesize_within {grammar : Grammar M} {needle : Needle} {depth larger : Nat}
    (hle : depth ≤ larger) :
    Runner.Within (synthesize grammar needle depth) (synthesize grammar needle larger) := by
  induction hle with
  | refl => exact fun _ _ _ _ hrun => hrun
  | step _ ih => exact fun _ _ _ _ hrun => synthesize_within_succ grammar needle _ (ih hrun)

end Depth

section Memory

def Runner.IgnoresMemory (run : Runner M) : Prop :=
  ∀ ⦃r draft memory ending draft' memory'⦄,
    run r draft memory = some (ending, draft', memory') →
      memory' = memory ∧ ∀ other, run r draft other = some (ending, draft', other)

variable {run : Runner M}

theorem attempt_ignores_memory (hrun : run.IgnoresMemory) {c : Candidate} {draft draft' : Draft}
    {memory memory' : M} {reply? : Option Reply}
    (hc : attempt run c draft memory = some (reply?, draft', memory')) :
    memory' = memory ∧ ∀ other, attempt run c draft other = some (reply?, draft', other) := by
  rcases attempt_cases hc with ⟨text, rfl, rfl, rfl, rfl⟩ | ⟨p, rfl, hzero, rfl, rfl, rfl⟩ |
    ⟨p, rfl, htakes, rfl, rfl, rfl⟩ | ⟨r, ending, rfl, hr, rfl⟩
  · exact ⟨rfl, fun other => rfl⟩
  · exact ⟨rfl, fun other => by simp [attempt, hzero]⟩
  · exact ⟨rfl, fun other => by simp [attempt, htakes]⟩
  · obtain ⟨rfl, hother⟩ := hrun hr
    refine ⟨rfl, fun other => ?_⟩
    cases ending <;> simp [attempt, hother other, Ending.reply?]

theorem tryCandidates_ignores_memory (hrun : run.IgnoresMemory) {candidates : List Candidate}
    {draft : Draft} {memory memory' : M} {reply : Reply} {frame : Frame}
    (htry : tryCandidates run candidates draft memory = some (reply, frame, memory')) :
    memory' = memory ∧
      ∀ other, tryCandidates run candidates draft other = some (reply, frame, other) := by
  induction candidates generalizing draft with
  | nil =>
      simp only [tryCandidates, Option.some.injEq, Prod.mk.injEq] at htry
      obtain ⟨rfl, rfl, rfl⟩ := htry
      exact ⟨rfl, fun other => rfl⟩
  | cons c rest ih =>
      rw [tryCandidates_cons] at htry
      cases hc : attempt run c draft memory with
      | none => simp [hc] at htry
      | some found =>
          obtain ⟨reply?, draft₁, memory₁⟩ := found
          obtain ⟨rfl, hother⟩ := attempt_ignores_memory hrun hc
          cases reply? with
          | some decided =>
              simp only [hc, Option.some.injEq, Prod.mk.injEq] at htry
              obtain ⟨rfl, rfl, rfl⟩ := htry
              exact ⟨rfl, fun other => by rw [tryCandidates_cons, hother]⟩
          | none =>
              simp only [hc] at htry
              obtain ⟨hkept, hrest⟩ := ih htry
              refine ⟨hkept, fun other => ?_⟩
              rw [tryCandidates_cons, hother]
              exact hrest other

theorem session_ignores_memory (hrun : run.IgnoresMemory) :
    Body.IgnoresMemory (session run) := by
  intro node frame memory reply frame' memory' hreply
  unfold session at hreply ⊢
  split at hreply
  · rename_i hresolved
    simp only [Option.some.injEq, Prod.mk.injEq] at hreply
    obtain ⟨rfl, rfl, rfl⟩ := hreply
    exact ⟨rfl, fun other => by simp [hresolved]⟩
  · rename_i hopen
    split at hreply
    · rename_i hhalted
      simp only [Option.some.injEq, Prod.mk.injEq] at hreply
      obtain ⟨rfl, rfl, rfl⟩ := hreply
      exact ⟨rfl, fun other => by simp [hopen, hhalted]⟩
    · rename_i hlive
      obtain ⟨hkept, hother⟩ := tryCandidates_ignores_memory hrun hreply
      exact ⟨hkept, fun other => by simp [hopen, hlive, hother]⟩

theorem synthesize_ignores_memory {grammar : Grammar M}
    (honly : ∀ id, (grammar id).SessionOnly) (needle : Needle) (depth : Nat) :
    Runner.IgnoresMemory (synthesize grammar needle depth) := by
  induction depth with
  | zero =>
      intro r draft memory ending draft' memory' hrun
      simp [synthesize] at hrun
  | succ depth ih =>
      intro r draft memory ending draft' memory' hrun
      obtain ⟨outcome, frame, hbody, hfinish⟩ := synthesize_succ_eq_some.1 hrun
      obtain ⟨hkept, hother⟩ :=
        Body.run_ignores_memory (session_ignores_memory ih) (honly r.id) hbody
      refine ⟨hkept, fun other => ?_⟩
      exact synthesize_succ_eq_some.2 ⟨outcome, frame, hother other, hfinish⟩

theorem invert_eq_some {grammar : Grammar M} {depth : Nat} {needle : Needle} {r : Rule}
    {memory memory' : M} {outcome : Inversion} :
    invert grammar depth needle r memory = some (outcome, memory') ↔
      ∃ ending draft, synthesize grammar needle depth r .empty memory =
        some (ending, draft, memory') ∧ .ofEnding ending draft = outcome := by
  unfold invert
  cases synthesize grammar needle depth r .empty memory with
  | none => simp
  | some ended =>
      obtain ⟨ending, draft, memory₁⟩ := ended
      simp only [Option.map_some, Option.some.injEq, Prod.mk.injEq]
      constructor
      · rintro ⟨rfl, rfl⟩
        exact ⟨ending, draft, ⟨rfl, rfl, rfl⟩, rfl⟩
      · rintro ⟨_, _, ⟨rfl, rfl, rfl⟩, rfl⟩
        exact ⟨rfl, rfl⟩

/-- A rule that is inverted by itself comes to `outcome`, at each depth that is enough for
it, and leaves the memory as it was. -/
def Inverts (grammar : Grammar M) (needle : Needle) (memory : M) (r : Rule)
    (outcome : Inversion) : Prop :=
  ∃ least, ∀ depth, least ≤ depth →
    invert grammar depth needle r memory = some (outcome, memory)

theorem inverts_of_synthesize {grammar : Grammar M} (honly : ∀ id, (grammar id).SessionOnly)
    {needle : Needle} {depth : Nat} {r : Rule} {draft : Draft} {memory memory' : M}
    {ending : Ending}
    (hrun : synthesize grammar needle depth r .empty memory = some (ending, draft, memory'))
    (other : M) : Inverts grammar needle other r (.ofEnding ending draft) := by
  obtain ⟨_, hother⟩ := synthesize_ignores_memory honly needle depth hrun
  refine ⟨depth, fun larger hle => ?_⟩
  exact invert_eq_some.2 ⟨ending, draft, synthesize_within hle (hother other), rfl⟩

end Memory

end TwoWay.Backward
