import TwoWay.Backward.Run
import TwoWay.Proofs.Refusal

/-!
A request while a grammar is inverted, candidate by candidate. Only a rule that
fails is passed over. Any other candidate decides the request, and in a rule
that completes it ends the inversion: from then on no request changes anything.
-/

namespace TwoWay.Backward

variable {M : Type}

/-- What a candidate comes to on a draft: the reply it makes, unless it is a
rule that fails, and the draft it leaves. -/
def attempt (run : Runner M) : Candidate → Draft → M → Option (Option Reply × Draft × M)
  | .literal text, draft, memory =>
      some (some (.ok (.literal text)), draft.push text, memory)
  | .pattern p, draft, memory =>
      if p.zeroWidth then some (some (.ok (.pattern .empty)), draft, memory)
      else
        some (some (.ok (.pattern (.placeholder (draft.reserve p).1))), (draft.reserve p).2,
          memory)
  | .rule r, draft, memory =>
      match run r draft memory with
      | none => none
      | some (.complete, draft, memory) => some (some (.error .resolved), draft, memory)
      | some (.unfinished, draft, memory) => some (some (.ok (.rule .nil)), draft, memory)
      | some (.failed, draft, memory) => some (none, draft, memory)

/-- What a request hears of a rule that was tried for it, unless the rule failed. -/
def Ending.reply? : Ending → Option Reply
  | .complete => some (.error .resolved)
  | .unfinished => some (.ok (.rule .nil))
  | .failed => none

theorem attempt_cases {run : Runner M} {c : Candidate} {draft draft' : Draft}
    {memory memory' : M} {reply? : Option Reply}
    (hc : attempt run c draft memory = some (reply?, draft', memory')) :
    (∃ text, c = .literal text ∧ reply? = some (.ok (.literal text)) ∧
      draft' = draft.push text ∧ memory' = memory) ∨
    (∃ p, c = .pattern p ∧ p.zeroWidth = true ∧ reply? = some (.ok (.pattern .empty)) ∧
      draft' = draft ∧ memory' = memory) ∨
    (∃ p, c = .pattern p ∧ p.zeroWidth = false ∧
      reply? = some (.ok (.pattern (.placeholder (draft.reserve p).1))) ∧
      draft' = (draft.reserve p).2 ∧ memory' = memory) ∨
    (∃ r ending, c = .rule r ∧ run r draft memory = some (ending, draft', memory') ∧
      reply? = ending.reply?) := by
  cases c with
  | literal text =>
      simp only [attempt, Option.some.injEq, Prod.mk.injEq] at hc
      obtain ⟨rfl, rfl, rfl⟩ := hc
      exact Or.inl ⟨text, rfl, rfl, rfl, rfl⟩
  | pattern p =>
      cases hzero : p.zeroWidth with
      | true =>
          simp only [attempt, hzero, if_true, Option.some.injEq, Prod.mk.injEq] at hc
          obtain ⟨rfl, rfl, rfl⟩ := hc
          exact Or.inr (Or.inl ⟨p, rfl, hzero, rfl, rfl, rfl⟩)
      | false =>
          simp only [attempt, hzero, Bool.false_eq_true, if_false, Option.some.injEq,
            Prod.mk.injEq] at hc
          obtain ⟨rfl, rfl, rfl⟩ := hc
          exact Or.inr (Or.inr (Or.inl ⟨p, rfl, hzero, rfl, rfl, rfl⟩))
  | rule r =>
      simp only [attempt] at hc
      cases hr : run r draft memory with
      | none => simp [hr] at hc
      | some ended =>
          obtain ⟨ending, draft₁, memory₁⟩ := ended
          refine Or.inr (Or.inr (Or.inr ⟨r, ending, rfl, ?_⟩))
          cases ending
          all_goals
            simp only [hr, Option.some.injEq, Prod.mk.injEq] at hc
            obtain ⟨rfl, rfl, rfl⟩ := hc
            exact ⟨hr, rfl⟩

theorem attempt_rule {run : Runner M} {r : Rule} {draft draft' : Draft} {memory memory' : M}
    {reply : Reply} (hc : attempt run (.rule r) draft memory = some (some reply, draft', memory')) :
    ∃ ending, run r draft memory = some (ending, draft', memory') ∧
      ending.reply? = some reply := by
  rcases attempt_cases hc with ⟨_, hrule, _⟩ | ⟨_, hrule, _⟩ | ⟨_, hrule, _⟩ |
    ⟨r', ending, hrule, hr, hreply⟩
  · cases hrule
  · cases hrule
  · cases hrule
  · obtain rfl := Candidate.rule.inj hrule
    exact ⟨ending, hr, hreply.symm⟩

theorem failed_of_attempt {run : Runner M} {c : Candidate} {draft draft' : Draft}
    {memory memory' : M} (hc : attempt run c draft memory = some (none, draft', memory')) :
    ∃ r, c = .rule r ∧ run r draft memory = some (.failed, draft', memory') := by
  rcases attempt_cases hc with ⟨_, _, hnone, _⟩ | ⟨_, _, _, hnone, _⟩ | ⟨_, _, _, hnone, _⟩ |
    ⟨r, ending, hrule, hr, hnone⟩
  · cases hnone
  · cases hnone
  · cases hnone
  · cases ending with
    | complete => cases hnone
    | unfinished => cases hnone
    | failed => exact ⟨r, hrule, hr⟩

section Decided

variable {run : Runner M} {draft draft' : Draft} {memory memory' : M} {c : Candidate}

theorem answered_cases {answer : Answer}
    (hc : attempt run c draft memory = some (some (.ok answer), draft', memory')) :
    (∃ text, c = .literal text ∧ answer = .literal text ∧ draft' = draft.push text ∧
      memory' = memory) ∨
    (∃ p found, c = .pattern p ∧ answer = .pattern found ∧ found.text ≠ .nil ∧
      found.text.fields? = none ∧ memory' = memory) ∨
    (∃ q, c = .rule q ∧ answer = .rule .nil ∧
      run q draft memory = some (.unfinished, draft', memory')) := by
  rcases attempt_cases hc with ⟨text, hliteral, hanswer, hdraft, hmemory⟩ |
    ⟨p, hp, _, hanswer, _, hmemory⟩ | ⟨p, hp, _, hanswer, _, hmemory⟩ |
    ⟨q, ending, hrule, hq, hanswer⟩
  · obtain rfl := Except.ok.inj (Option.some.inj hanswer)
    exact Or.inl ⟨text, hliteral, rfl, hdraft, hmemory⟩
  · obtain rfl := Except.ok.inj (Option.some.inj hanswer)
    exact Or.inr (Or.inl ⟨p, .empty, hp, rfl, nofun, rfl, hmemory⟩)
  · obtain rfl := Except.ok.inj (Option.some.inj hanswer)
    exact Or.inr (Or.inl ⟨p, .placeholder _, hp, rfl, nofun, rfl, hmemory⟩)
  · cases ending with
    | complete => cases hanswer
    | failed => cases hanswer
    | unfinished =>
        obtain rfl := Except.ok.inj (Option.some.inj hanswer)
        exact Or.inr (Or.inr ⟨q, hrule, rfl, hq⟩)

theorem complete_of_attempt {halt : Halt}
    (hc : attempt run c draft memory = some (some (.error halt), draft', memory')) :
    ∃ q, c = .rule q ∧ halt = .resolved ∧
      run q draft memory = some (.complete, draft', memory') := by
  rcases attempt_cases hc with ⟨_, _, herror, _⟩ | ⟨_, _, _, herror, _⟩ | ⟨_, _, _, herror, _⟩ |
    ⟨q, ending, hrule, hq, herror⟩
  · cases herror
  · cases herror
  · cases herror
  · cases ending with
    | complete => exact ⟨q, hrule, Except.error.inj (Option.some.inj herror), hq⟩
    | failed => cases herror
    | unfinished => cases herror

theorem attempt_pattern (run : Runner M) (draft : Draft) (memory : M) (p : Pattern) :
    ∃ found draft₁, attempt run (.pattern p) draft memory =
      some (some (.ok (.pattern found)), draft₁, memory) := by
  cases hzero : p.zeroWidth with
  | true => exact ⟨.empty, draft, by simp [attempt, hzero]⟩
  | false =>
      exact ⟨.placeholder (draft.reserve p).1, (draft.reserve p).2, by simp [attempt, hzero]⟩

theorem attempt_unfinished {q : Rule}
    (hq : run q draft memory = some (.unfinished, draft', memory')) :
    attempt run (.rule q) draft memory = some (some (.ok (.rule .nil)), draft', memory') := by
  simp only [attempt, hq]

end Decided

/-- Candidates that are passed over one after another, each with the draft and
the memory that the one before left. -/
inductive Passed (run : Runner M) : List Candidate → Draft → M → Draft → M → Prop where
  | nil {draft : Draft} {memory : M} : Passed run [] draft memory draft memory
  | cons {c : Candidate} {rest : List Candidate} {draft draft₁ draft' : Draft}
      {memory memory₁ memory' : M} :
      attempt run c draft memory = some (none, draft₁, memory₁) →
      Passed run rest draft₁ memory₁ draft' memory' →
      Passed run (c :: rest) draft memory draft' memory'

section Candidates

variable {run : Runner M} {draft draft' : Draft} {memory memory' : M}

theorem tryCandidates_cons (c : Candidate) (rest : List Candidate) :
    tryCandidates run (c :: rest) draft memory =
      match attempt run c draft memory with
      | none => none
      | some (some reply, draft, memory) => some (reply, ⟨draft, false⟩, memory)
      | some (none, draft, memory) => tryCandidates run rest draft memory := by
  cases c with
  | literal text => rfl
  | pattern p => cases hzero : p.zeroWidth <;> simp [tryCandidates, attempt, hzero]
  | rule r =>
      simp only [tryCandidates, attempt]
      cases run r draft memory with
      | none => rfl
      | some ended =>
          obtain ⟨ending, draft₁, memory₁⟩ := ended
          cases ending <;> rfl

theorem tryCandidates_of_passed {pre : List Candidate}
    (hpre : Passed run pre draft memory draft' memory') (post : List Candidate) :
    tryCandidates run (pre ++ post) draft memory = tryCandidates run post draft' memory' := by
  induction hpre with
  | nil => rfl
  | cons hc _ ih =>
      rw [List.cons_append, tryCandidates_cons, hc]
      exact ih

/-- Each list of candidates that is tried to an end is split by the one that
decides, or is passed over as a whole. -/
theorem tryCandidates_split {candidates : List Candidate} {reply : Reply} {frame : Frame}
    (htry : tryCandidates run candidates draft memory = some (reply, frame, memory')) :
    (∃ pre c post draft₁ memory₁ draft₂,
      candidates = pre ++ c :: post ∧ Passed run pre draft memory draft₁ memory₁ ∧
      attempt run c draft₁ memory₁ = some (some reply, draft₂, memory') ∧
      frame = ⟨draft₂, false⟩) ∨
    (∃ draft₁, Passed run candidates draft memory draft₁ memory' ∧
      reply = .error .mismatch ∧ frame = ⟨draft₁, true⟩) := by
  induction candidates generalizing draft memory with
  | nil =>
      simp only [tryCandidates, Option.some.injEq, Prod.mk.injEq] at htry
      obtain ⟨rfl, rfl, rfl⟩ := htry
      exact Or.inr ⟨draft, .nil, rfl, rfl⟩
  | cons c rest ih =>
      rw [tryCandidates_cons] at htry
      cases hc : attempt run c draft memory with
      | none => simp [hc] at htry
      | some found =>
          obtain ⟨result, draft₁, memory₁⟩ := found
          cases result with
          | some decided =>
              simp only [hc, Option.some.injEq, Prod.mk.injEq] at htry
              obtain ⟨rfl, rfl, rfl⟩ := htry
              exact Or.inl ⟨[], c, rest, draft, memory, draft₁, rfl, .nil, hc, rfl⟩
          | none =>
              simp only [hc] at htry
              rcases ih htry with
                ⟨pre, c', post, draft₂, memory₂, draft₃, rfl, hpre, hc', hframe⟩ |
                ⟨draft₂, hrest, hreply, hframe⟩
              · exact Or.inl ⟨c :: pre, c', post, draft₂, memory₂, draft₃, rfl,
                  .cons hc hpre, hc', hframe⟩
              · exact Or.inr ⟨draft₂, .cons hc hrest, hreply, hframe⟩

end Candidates

section Session

variable {run : Runner M} {node : Node} {frame : Frame} {memory : M}

theorem session_of_live (hopen : frame.draft.resolved = false) (hlive : frame.halted = false) :
    session run node frame memory = tryCandidates run node.candidates frame.draft memory := by
  simp [session, hopen, hlive]

theorem session_of_attempt {pre post : List Candidate} {c : Candidate} {draft₁ draft₂ : Draft}
    {memory₁ memory₂ : M} {reply : Reply} (hopen : frame.draft.resolved = false)
    (hlive : frame.halted = false) (hnode : node.candidates = pre ++ c :: post)
    (hpre : Passed run pre frame.draft memory draft₁ memory₁)
    (hc : attempt run c draft₁ memory₁ = some (some reply, draft₂, memory₂)) :
    session run node frame memory = some (reply, ⟨draft₂, false⟩, memory₂) := by
  rw [session_of_live hopen hlive, hnode, tryCandidates_of_passed hpre, tryCandidates_cons, hc]

theorem session_of_complete {pre post : List Candidate} {q : Rule} {draft₁ settled : Draft}
    {memory₁ memory₂ : M} (hopen : frame.draft.resolved = false) (hlive : frame.halted = false)
    (hnode : node.candidates = pre ++ .rule q :: post)
    (hpre : Passed run pre frame.draft memory draft₁ memory₁)
    (hq : run q draft₁ memory₁ = some (.complete, settled, memory₂)) :
    session run node frame memory = some (.error .resolved, ⟨settled, false⟩, memory₂) := by
  have hc : attempt run (.rule q) draft₁ memory₁ =
      some (some (.error .resolved), settled, memory₂) := by
    simp only [attempt, hq]
  exact session_of_attempt hopen hlive hnode hpre hc

theorem ended_of_session {pre post : List Candidate} {q : Rule} {draft₁ : Draft}
    {memory₁ : M} (hopen : frame.draft.resolved = false) (hlive : frame.halted = false)
    (hnode : node.candidates = pre ++ .rule q :: post)
    (hpre : Passed run pre frame.draft memory draft₁ memory₁)
    {ended : Reply × Frame × M} (hreply : session run node frame memory = some ended) :
    ∃ result, run q draft₁ memory₁ = some result := by
  rw [session_of_live hopen hlive, hnode, tryCandidates_of_passed hpre,
    tryCandidates_cons] at hreply
  cases hq : run q draft₁ memory₁ with
  | none => simp [attempt, hq] at hreply
  | some result => exact ⟨result, rfl⟩

theorem session_of_passed {draft₁ : Draft} {memory₁ : M} (hopen : frame.draft.resolved = false)
    (hlive : frame.halted = false)
    (hnode : Passed run node.candidates frame.draft memory draft₁ memory₁) :
    session run node frame memory = some (.error .mismatch, ⟨draft₁, true⟩, memory₁) := by
  rw [session_of_live hopen hlive, ← List.append_nil node.candidates,
    tryCandidates_of_passed hnode]
  rfl

/-- All that a request can do. Once the needle is met, or a request of the frame
has failed, nothing moves any more; before that it is decided by the first
candidate that is not passed over, or fails. -/
theorem session_cases {reply : Reply} {frame' : Frame} {memory' : M}
    (hrun : session run node frame memory = some (reply, frame', memory')) :
    (frame.draft.resolved = true ∧ reply = .error .resolved ∧ frame' = frame ∧
      memory' = memory) ∨
    (frame.draft.resolved = false ∧ frame.halted = true ∧ reply = .error .mismatch ∧
      frame' = frame ∧ memory' = memory) ∨
    (frame.draft.resolved = false ∧ frame.halted = false ∧
      ∃ pre c post draft₁ memory₁ draft₂,
        node.candidates = pre ++ c :: post ∧
        Passed run pre frame.draft memory draft₁ memory₁ ∧
        attempt run c draft₁ memory₁ = some (some reply, draft₂, memory') ∧
        frame' = ⟨draft₂, false⟩) ∨
    (frame.draft.resolved = false ∧ frame.halted = false ∧
      ∃ draft₁, Passed run node.candidates frame.draft memory draft₁ memory' ∧
        reply = .error .mismatch ∧ frame' = ⟨draft₁, true⟩) := by
  cases hresolved : frame.draft.resolved with
  | true =>
      simp only [session, hresolved, if_true, Option.some.injEq, Prod.mk.injEq] at hrun
      obtain ⟨rfl, rfl, rfl⟩ := hrun
      exact Or.inl ⟨rfl, rfl, rfl, rfl⟩
  | false =>
      cases hhalted : frame.halted with
      | true =>
          simp only [session, hresolved, hhalted, Bool.false_eq_true, if_false, if_true,
            Option.some.injEq, Prod.mk.injEq] at hrun
          obtain ⟨rfl, rfl, rfl⟩ := hrun
          exact Or.inr (Or.inl ⟨rfl, rfl, rfl, rfl, rfl⟩)
      | false =>
          rw [session_of_live hresolved hhalted] at hrun
          rcases tryCandidates_split hrun with hdecided | hpassed
          · exact Or.inr (Or.inr (Or.inl ⟨rfl, rfl, hdecided⟩))
          · exact Or.inr (Or.inr (Or.inr ⟨rfl, rfl, hpassed⟩))

/-- Once the needle is met every request is told so. -/
theorem refuses_of_resolved (hresolved : frame.draft.resolved = true) :
    Body.Refuses (session run) .resolved frame := by
  intro node memory
  simp [session, hresolved]

theorem refuses_of_halted (hopen : frame.draft.resolved = false) (hhalted : frame.halted = true) :
    Body.Refuses (session run) .mismatch frame := by
  intro node memory
  simp [session, hopen, hhalted]

end Session

end TwoWay.Backward
