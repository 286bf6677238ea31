import TwoWay.Grammar.Standard
import TwoWay.Proofs.Mismatch

/-!
Probes while a grammar is inverted. A probe asks for what it was given and, as the last
alternative, for the empty text, so its request is decided in any case: by the first of its
candidates that is not a rule that fails. A truth value meets no needle, nor does a text or a
slot by itself. So a probe that does not complete by a rule below it can go on only with a
value that is nothing, and fails otherwise. The tests for the end of the input always fail.
-/

namespace TwoWay.Backward

open Body (Course Exchange)

variable {M : Type}

/-- The candidates are rules that fail one after another, each from the same draft and with the
memory that the one before left. -/
inductive AllFail (run : Runner M) (draft : Draft) : List Candidate → M → M → Prop where
  | nil {memory : M} : AllFail run draft [] memory memory
  | cons {q : Rule} {rest : List Candidate} {memory memory₁ memory' : M} :
      run q draft memory = some (.failed, draft, memory₁) →
      AllFail run draft rest memory₁ memory' →
      AllFail run draft (.rule q :: rest) memory memory'

section Request

variable {run : Runner M} {draft draft' : Draft} {memory memory' : M}

theorem AllFail.exists_rule {candidates : List Candidate} {c : Candidate}
    (h : AllFail run draft candidates memory memory') (hc : c ∈ candidates) : ∃ q, c = .rule q := by
  induction h with
  | nil => cases hc
  | cons _ _ ih =>
      rcases List.mem_cons.1 hc with rfl | hc
      · exact ⟨_, rfl⟩
      · exact ih hc

theorem AllFail.passed {candidates : List Candidate}
    (h : AllFail run draft candidates memory memory') :
    Passed run candidates draft memory draft memory' := by
  induction h with
  | nil => exact .nil
  | cons hq _ ih =>
      refine .cons ?_ ih
      simp only [attempt, hq]

theorem Passed.allFail (hrun : run.Atomic) (hopen : draft.resolved = false)
    {candidates : List Candidate} (h : Passed run candidates draft memory draft' memory') :
    draft' = draft ∧ AllFail run draft candidates memory memory' := by
  induction h with
  | nil => exact ⟨rfl, .nil⟩
  | cons hc _ ih =>
      obtain ⟨q, rfl, hq⟩ := failed_of_attempt hc
      obtain rfl := attempt_none hrun hopen hc
      obtain ⟨hdraft, hrest⟩ := ih hopen
      exact ⟨hdraft, .cons hq hrest⟩

/-- A request that ends with a text is decided by the first candidate that is not a rule that
fails. -/
theorem session_closed_iff (hrun : run.Atomic) (hopen : draft.resolved = false) {node : Node}
    {before : List Candidate} {text : String}
    (hnode : node.candidates = before ++ [.literal text]) {reply : Reply} {frame : Frame} :
    session run node ⟨draft, false⟩ memory = some (reply, frame, memory') ↔
      ∃ pre c post memory₁ draft₂, node.candidates = pre ++ c :: post ∧
        AllFail run draft pre memory memory₁ ∧
        attempt run c draft memory₁ = some (some reply, draft₂, memory') ∧
        frame = ⟨draft₂, false⟩ := by
  constructor
  · intro hreply
    rcases session_cases hreply with ⟨hresolved, _⟩ | ⟨_, hhalted, _⟩ |
      ⟨_, _, pre, c, post, draft₁, memory₁, draft₂, hsplit, hpre, hc, hframe⟩ |
      ⟨_, _, draft₁, hpassed, _⟩
    · simp [hopen] at hresolved
    · cases hhalted
    · obtain ⟨rfl, hfail⟩ := hpre.allFail hrun hopen
      exact ⟨pre, c, post, memory₁, draft₂, hsplit, hfail, hc, hframe⟩
    · obtain ⟨_, hfail⟩ := hpassed.allFail hrun hopen
      obtain ⟨q, hq⟩ := hfail.exists_rule (c := .literal text) (by simp [hnode])
      cases hq
  · rintro ⟨pre, c, post, memory₁, draft₂, hsplit, hfail, hc, rfl⟩
    exact session_of_attempt hopen rfl hsplit hfail.passed hc

end Request

section Finish

variable {run : Runner M} {draft draft₁ : Draft} {memory memory' : M} {c : Candidate}
  {answer : Answer}

theorem finish_of_nil (hrun : run.Atomic) (hopen : draft.resolved = false)
    (hc : attempt run c draft memory = some (some (.ok answer), draft₁, memory'))
    (needle : Needle) :
    Frame.finish needle draft ⟨draft₁, false⟩ (.ok .nil) = (.unfinished, draft₁) := by
  simp [Frame.finish, (keeps_of_answer hrun hopen hc).live]

theorem finish_of_fieldless (hrun : run.Atomic) (hopen : draft.resolved = false)
    (hc : attempt run c draft memory = some (some (.ok answer), draft₁, memory'))
    (needle : Needle) {value : Value} (hvalue : value ≠ .nil) (hfields : value.fields? = none) :
    Frame.finish needle draft ⟨draft₁, false⟩ (.ok value) = (.failed, draft) := by
  have hkeeps := keeps_of_answer hrun hopen hc
  have hback := hkeeps.rollback hopen
  cases value with
  | nil => exact absurd rfl hvalue
  | map _ => cases hfields
  | number _ | string _ | bool _ | list _ | slot _ =>
      simp [Frame.finish, hkeeps.live, Draft.settle?, Draft.settleInOrder?, hfields, hback]

end Finish

section Probe

/-- How a probe that works a value out of its answer is decided by a candidate, from a draft:
by a rule that completes, or by an answer, whose value then is nothing or meets no needle. -/
inductive Turns (value : Answer → Value) (run : Runner M) (draft : Draft) (memory : M)
    (c : Candidate) : Ending → Draft → M → Prop where
  | complete {q : Rule} {draft' : Draft} {memory' : M} :
      c = .rule q → run q draft memory = some (.complete, draft', memory') →
      Turns value run draft memory c .complete draft' memory'
  | unfinished {answer : Answer} {draft' : Draft} {memory' : M} :
      attempt run c draft memory = some (some (.ok answer), draft', memory') →
      value answer = .nil → Turns value run draft memory c .unfinished draft' memory'
  | failed {answer : Answer} {draft₁ : Draft} {memory' : M} :
      attempt run c draft memory = some (some (.ok answer), draft₁, memory') →
      value answer ≠ .nil → Turns value run draft memory c .failed draft memory'

/-- An answer that a session gives while a grammar is inverted: what stands in for a match is a
text or a slot, and a rule has no value yet. -/
inductive Synthetic : Answer → Prop where
  | literal (text : String) : Synthetic (.literal text)
  | pattern {found : Pattern.Match} :
      found.text ≠ .nil → found.text.fields? = none → Synthetic (.pattern found)
  | rule : Synthetic (.rule .nil)

variable {value : Answer → Value} {run : Runner M} {draft draft' : Draft} {memory memory' : M}

theorem synthetic_of_attempt {c : Candidate} {answer : Answer}
    (hc : attempt run c draft memory = some (some (.ok answer), draft', memory')) :
    Synthetic answer := by
  rcases answered_cases hc with ⟨text, _, rfl, _⟩ | ⟨_, _, _, rfl, hne, hfields, _⟩ | ⟨_, _, rfl, _⟩
  · exact .literal text
  · exact .pattern hne hfields
  · exact .rule

variable (hrun : run.Atomic) (hopen : draft.resolved = false)

include hrun hopen

theorem finish_iff_turns (hvalue : ∀ {answer}, Synthetic answer → value answer = .nil ∨
      (value answer).fields? = none) {needle : Needle} {c : Candidate} {ending : Ending} :
    (∃ reply draft₁, attempt run c draft memory = some (some reply, draft₁, memory') ∧
      Frame.finish needle draft ⟨draft₁, false⟩ (reply.map value) = (ending, draft')) ↔
      Turns value run draft memory c ending draft' memory' := by
  constructor
  · rintro ⟨reply, draft₁, hc, hfinish⟩
    cases reply with
    | error halt =>
        obtain ⟨q, hrule, _, hq⟩ := complete_of_attempt hc
        have hresolved : draft₁.resolved = true := hrun hopen hq
        rw [finish_of_resolved hresolved] at hfinish
        obtain ⟨rfl, rfl⟩ := Prod.mk.inj hfinish
        exact .complete hrule hq
    | ok answer =>
        simp only [Except.map] at hfinish
        by_cases hv : value answer = .nil
        · rw [hv, finish_of_nil hrun hopen hc] at hfinish
          obtain ⟨rfl, rfl⟩ := Prod.mk.inj hfinish
          exact .unfinished hc hv
        · have hfields := (hvalue (synthetic_of_attempt hc)).resolve_left hv
          rw [finish_of_fieldless hrun hopen hc needle hv hfields] at hfinish
          obtain ⟨rfl, rfl⟩ := Prod.mk.inj hfinish
          exact .failed hc hv
  · intro hturns
    cases hturns with
    | complete hrule hq =>
        have hresolved : draft'.resolved = true := hrun hopen hq
        refine ⟨.error .resolved, draft', ?_, finish_of_resolved hresolved _ _⟩
        rw [hrule]
        simp only [attempt, hq]
    | unfinished hc hv =>
        refine ⟨_, _, hc, ?_⟩
        simp only [Except.map, hv]
        exact finish_of_nil hrun hopen hc needle
    | failed hc hv =>
        have hfields := (hvalue (synthetic_of_attempt hc)).resolve_left hv
        exact ⟨_, _, hc, finish_of_fieldless hrun hopen hc needle hv hfields⟩

end Probe

section Walk

variable {grammar : Grammar M} {r : Rule} {needle : Needle} {depth : Nat} {draft : Draft}
  {memory : M}

theorem synthesize_probe_iff {node : Node} {next : Reply → Body M Outcome}
    {before : List Candidate} {value : Answer → Value} (hbody : grammar r.id = .request node next)
    (hnext : ∀ reply, next reply = .done (reply.map value))
    (hnode : node.candidates = before ++ [.literal ""])
    (hvalue : ∀ {answer}, Synthetic answer → value answer = .nil ∨
      (value answer).fields? = none)
    (hopen : draft.resolved = false) {ending : Ending} {draft' : Draft} {memory' : M} :
    synthesize grammar needle (depth + 1) r draft memory = some (ending, draft', memory') ↔
      ∃ pre c post memory₁, before ++ [.literal ""] = pre ++ c :: post ∧
        AllFail (synthesize grammar needle depth) draft pre memory memory₁ ∧
        Turns value (synthesize grammar needle depth) draft memory₁ c ending draft' memory' := by
  have hrun := synthesize_atomic grammar needle depth
  have hended : synthesize grammar needle (depth + 1) r draft memory =
        some (ending, draft', memory') ↔
      ∃ reply frame, session (synthesize grammar needle depth) node ⟨draft, false⟩ memory =
          some (reply, frame, memory') ∧
        frame.finish needle draft (reply.map value) = (ending, draft') := by
    rw [synthesize_succ_eq_some, hbody]
    simp only [Body.run]
    cases session (synthesize grammar needle depth) node ⟨draft, false⟩ memory with
    | none => simp
    | some replied =>
        obtain ⟨reply, frame, memory₁⟩ := replied
        simp only [hnext, Body.run, Option.some.injEq, Prod.mk.injEq]
        constructor
        · rintro ⟨_, _, ⟨rfl, rfl, rfl⟩, hfinish⟩
          exact ⟨_, _, ⟨rfl, rfl, rfl⟩, hfinish⟩
        · rintro ⟨_, _, ⟨rfl, rfl, rfl⟩, hfinish⟩
          exact ⟨_, _, ⟨rfl, rfl, rfl⟩, hfinish⟩
  rw [hended]
  simp only [session_closed_iff hrun hopen hnode, hnode]
  constructor
  · rintro ⟨reply, frame, ⟨pre, c, post, memory₁, draft₁, hsplit, hfail, hc, rfl⟩, hfinish⟩
    have hturns := (finish_iff_turns hrun hopen hvalue).1 ⟨reply, draft₁, hc, hfinish⟩
    exact ⟨pre, c, post, memory₁, hsplit, hfail, hturns⟩
  · rintro ⟨pre, c, post, memory₁, hsplit, hfail, hturns⟩
    obtain ⟨reply, draft₁, hc, hfinish⟩ := (finish_iff_turns hrun hopen hvalue).2 hturns
    exact ⟨reply, ⟨draft₁, false⟩, ⟨pre, c, post, memory₁, draft₁, hsplit, hfail, hc, rfl⟩,
      hfinish⟩

end Walk

section Tables

variable {run : Runner M} {draft draft' : Draft} {memory memory' : M} {c : Candidate}
  {ending : Ending}

theorem turns_has_iff :
    Turns (fun answer => .bool !answer.isEmptyLiteral) run draft memory c ending draft' memory' ↔
      (ending = .complete ∧ ∃ q, c = .rule q ∧
        run q draft memory = some (.complete, draft', memory')) ∨
      (ending = .failed ∧ draft' = draft ∧
        ((∃ text, c = .literal text ∧ memory' = memory) ∨
          (∃ p, c = .pattern p ∧ memory' = memory) ∨
          ∃ q draft₁, c = .rule q ∧ run q draft memory = some (.unfinished, draft₁, memory'))) := by
  constructor
  · rintro (⟨hrule, hq⟩ | ⟨_, hnil⟩ | ⟨hc, _⟩)
    · exact Or.inl ⟨rfl, _, hrule, hq⟩
    · cases hnil
    · refine Or.inr ⟨rfl, rfl, ?_⟩
      rcases answered_cases hc with ⟨text, hliteral, _, _, hmemory⟩ | ⟨p, _, hp, _, _, _, hmemory⟩ |
        ⟨q, hrule, _, hq⟩
      · exact Or.inl ⟨text, hliteral, hmemory⟩
      · exact Or.inr (Or.inl ⟨p, hp, hmemory⟩)
      · exact Or.inr (Or.inr ⟨q, _, hrule, hq⟩)
  · rintro (⟨rfl, q, hrule, hq⟩ | ⟨rfl, rfl, ⟨text, rfl, rfl⟩ | ⟨p, rfl, rfl⟩ |
      ⟨q, draft₁, rfl, hq⟩⟩)
    · exact .complete hrule hq
    · exact .failed rfl nofun
    · obtain ⟨found, draft₁, hc⟩ := attempt_pattern run draft' memory' p
      exact .failed hc nofun
    · exact .failed (attempt_unfinished hq) nofun

theorem turns_optional_iff :
    Turns (fun answer => if answer.isEmptyLiteral then .nil else answer.value) run draft memory c
        ending draft' memory' ↔
      (ending = .complete ∧ ∃ q, c = .rule q ∧
        run q draft memory = some (.complete, draft', memory')) ∨
      (ending = .unfinished ∧
        ((c = .literal "" ∧ draft' = draft.push "" ∧ memory' = memory) ∨
          ∃ q, c = .rule q ∧ run q draft memory = some (.unfinished, draft', memory'))) ∨
      (ending = .failed ∧ draft' = draft ∧ memory' = memory ∧
        ((∃ text, text ≠ "" ∧ c = .literal text) ∨ ∃ p, c = .pattern p)) := by
  have hliteral (text : String) :
      (if (Answer.literal text).isEmptyLiteral then Value.nil else (Answer.literal text).value) =
        .nil ↔ text = "" := by
    simp [Answer.isEmptyLiteral, Answer.value]
  constructor
  · rintro (⟨hrule, hq⟩ | ⟨hc, hnil⟩ | ⟨hc, hne⟩)
    · exact Or.inl ⟨rfl, _, hrule, hq⟩
    · refine Or.inr (Or.inl ⟨rfl, ?_⟩)
      rcases answered_cases hc with ⟨text, rfl, rfl, rfl, hmemory⟩ | ⟨p, _, hp, rfl, htext, _⟩ |
        ⟨q, hrule, _, hq⟩
      · obtain rfl := (hliteral text).1 hnil
        exact Or.inl ⟨rfl, rfl, hmemory⟩
      · exact absurd hnil htext
      · exact Or.inr ⟨q, hrule, hq⟩
    · rcases answered_cases hc with ⟨text, hcase, rfl, _, hmemory⟩ | ⟨p, _, hp, _, _, _, hmemory⟩ |
        ⟨q, _, rfl, _⟩
      · have hnonempty : text ≠ "" := fun hempty => hne ((hliteral text).2 hempty)
        exact Or.inr (Or.inr ⟨rfl, rfl, hmemory, Or.inl ⟨text, hnonempty, hcase⟩⟩)
      · exact Or.inr (Or.inr ⟨rfl, rfl, hmemory, Or.inr ⟨p, hp⟩⟩)
      · exact absurd rfl hne
  · rintro (⟨rfl, q, hrule, hq⟩ | ⟨rfl, ⟨rfl, rfl, rfl⟩ | ⟨q, rfl, hq⟩⟩ |
      ⟨rfl, rfl, rfl, ⟨text, hnonempty, rfl⟩ | ⟨p, rfl⟩⟩)
    · exact .complete hrule hq
    · exact .unfinished rfl ((hliteral "").2 rfl)
    · exact .unfinished (attempt_unfinished hq) rfl
    · exact .failed rfl fun hnil => hnonempty ((hliteral text).1 hnil)
    · obtain ⟨found, draft₁, hc⟩ := attempt_pattern run draft' memory' p
      rcases answered_cases hc with ⟨_, hcase, _⟩ | ⟨_, _, _, hfound, htext, _⟩ | ⟨_, hcase, _⟩
      · cases hcase
      · obtain rfl := Answer.pattern.inj hfound
        exact .failed hc htext
      · cases hcase

theorem fieldless_of_synthetic {answer : Answer} (h : Synthetic answer) :
    (if answer.isEmptyLiteral then Value.nil else answer.value) = .nil ∨
      (if answer.isEmptyLiteral then Value.nil else answer.value).fields? = none := by
  cases h with
  | literal text =>
      split
      · exact Or.inl rfl
      · exact Or.inr rfl
  | pattern _ hfields => exact Or.inr hfields
  | rule => exact Or.inl rfl

theorem rule_of_closed {before pre post : List Candidate} {q : Rule} {text : String}
    (hsplit : before ++ [.literal text] = pre ++ .rule q :: post) :
    ∃ post', before = pre ++ .rule q :: post' := by
  rcases List.eq_nil_or_concat' post with rfl | ⟨post', last, rfl⟩
  · cases (List.append_inj' hsplit rfl).2
  · rw [← List.cons_append, ← List.append_assoc] at hsplit
    exact ⟨post', (List.append_inj' hsplit rfl).1⟩

end Tables

section Tests

variable {grammar : Grammar M} {r : Rule} {needle : Needle} {depth : Nat} {draft : Draft}
  {memory : M}

theorem synthesize_truth {p : Pattern} {next : Reply → Body M Outcome}
    (hbody : grammar r.id = .request (.pattern p) next)
    (hnext : ∀ found, ∃ b, next (.ok (.pattern found)) = .done (.ok (.bool b)))
    (hopen : draft.resolved = false) :
    synthesize grammar needle (depth + 1) r draft memory = some (.failed, draft, memory) := by
  obtain ⟨found, draft₁, hc⟩ :=
    attempt_pattern (synthesize grammar needle depth) draft memory p
  obtain ⟨b, hb⟩ := hnext found
  have hreply : session (synthesize grammar needle depth) (.pattern p) ⟨draft, false⟩ memory =
      some (.ok (.pattern found), ⟨draft₁, false⟩, memory) :=
    session_of_attempt hopen rfl (List.nil_append _).symm .nil hc
  refine synthesize_succ_eq_some.2 ⟨.ok (.bool b), ⟨draft₁, false⟩, ?_, ?_⟩
  · rw [hbody]
    simp only [Body.run, hreply, hb]
  · have hvalue : Value.bool b ≠ .nil := by simp
    exact finish_of_fieldless (synthesize_atomic grammar needle depth) hopen hc needle hvalue rfl

theorem failed_of_delegation
    (hfails : synthesize grammar needle (depth + 1) r draft memory =
      some (.failed, draft, memory)) (hopen : draft.resolved = false) {q : Rule}
    {start : Draft} {memory₀ : M} {log : List (Exchange Frame M)}
    {next : Reply → Body M Outcome} {halted : Bool}
    (course : Course (session (synthesize grammar needle (depth + 1))) (grammar q.id)
      ⟨start, false⟩ memory₀ log (.request (.rule r) next) ⟨draft, halted⟩ memory)
    {ending : Ending} {draft' : Draft} {memory' : M}
    (hended : synthesize grammar needle (depth + 2) q start memory₀ =
      some (ending, draft', memory')) : ending = .failed ∧ draft' = start := by
  have hreply : session (synthesize grammar needle (depth + 1)) (.rule r) ⟨draft, halted⟩ memory =
      some (.error .mismatch, ⟨draft, true⟩, memory) := by
    cases halted with
    | true => exact refuses_of_halted hopen rfl _ _
    | false =>
        have hc : attempt (synthesize grammar needle (depth + 1)) (.rule r) draft memory =
            some (none, draft, memory) := by
          simp only [attempt, hfails]
        exact session_of_passed hopen rfl (.cons hc .nil)
  rw [synthesize_of_halted (course.trans (.request hreply .here)) hopen rfl] at hended
  obtain ⟨_, _, hfailed⟩ := Option.map_eq_some_iff.1 hended
  obtain ⟨rfl, hrest⟩ := Prod.mk.inj hfailed
  exact ⟨rfl, (Prod.mk.inj hrest).1.symm⟩

end Tests

/-- How the combinators are inverted while the needle is not met. Tests for the end of the input
fail, and so does each rule that asks for one. What decides `has` and `optional` is the first
candidate that is not a rule that fails, with the empty text as the last: `has` is complete with a
rule that is, else it fails; `optional` goes as a rule does, is unfinished with the empty text and
else fails. What fails leaves the draft as it was. -/
theorem combinators_inverted {grammar : Grammar M} {needle : Needle} {r : Rule} {depth : Nat}
    {draft : Draft} {memory : M} (hopen : draft.resolved = false) :
    (grammar r.id = Standard.hasMore ∨ grammar r.id = Standard.isEnd →
      synthesize grammar needle (depth + 1) r draft memory = some (.failed, draft, memory) ∧
      ∀ {q start memory₀ log next halted ending draft' memory'},
        Course (session (synthesize grammar needle (depth + 1))) (grammar q.id) ⟨start, false⟩
          memory₀ log (.request (.rule r) next) ⟨draft, halted⟩ memory →
        synthesize grammar needle (depth + 2) q start memory₀ =
          some (ending, draft', memory') →
        ending = .failed ∧ draft' = start) ∧
    (∀ item, grammar r.id = Standard.has item → ∀ {ending draft' memory'},
      synthesize grammar needle (depth + 1) r draft memory = some (ending, draft', memory') ↔
        (ending = .complete ∧ ∃ (pre : List Candidate) (q : Rule) (post : List Candidate)
          (memory₁ : M), item.candidates = pre ++ .rule q :: post ∧
          AllFail (synthesize grammar needle depth) draft pre memory memory₁ ∧
          synthesize grammar needle depth q draft memory₁ =
            some (.complete, draft', memory')) ∨
        (ending = .failed ∧ draft' = draft ∧ ∃ (pre : List Candidate) (c : Candidate)
          (post : List Candidate) (memory₁ : M),
          item.candidates ++ [.literal ""] = pre ++ c :: post ∧
          AllFail (synthesize grammar needle depth) draft pre memory memory₁ ∧
          ((∃ text, c = .literal text ∧ memory' = memory₁) ∨
            (∃ p, c = .pattern p ∧ memory' = memory₁) ∨
            ∃ q draft₁, c = .rule q ∧ synthesize grammar needle depth q draft memory₁ =
              some (.unfinished, draft₁, memory')))) ∧
    (∀ items, grammar r.id = Standard.optional items → ∀ {ending draft' memory'},
      synthesize grammar needle (depth + 1) r draft memory = some (ending, draft', memory') ↔
        ∃ (pre : List Candidate) (c : Candidate) (post : List Candidate) (memory₁ : M),
          (Node.choice items).candidates ++ [.literal ""] = pre ++ c :: post ∧
          AllFail (synthesize grammar needle depth) draft pre memory memory₁ ∧
          ((ending = .complete ∧ ∃ q, c = .rule q ∧
              synthesize grammar needle depth q draft memory₁ =
                some (.complete, draft', memory')) ∨
            (ending = .unfinished ∧
              ((c = .literal "" ∧ draft' = draft.push "" ∧ memory' = memory₁) ∨
                ∃ q, c = .rule q ∧ synthesize grammar needle depth q draft memory₁ =
                  some (.unfinished, draft', memory'))) ∨
            (ending = .failed ∧ draft' = draft ∧ memory' = memory₁ ∧
              ((∃ text, text ≠ "" ∧ c = .literal text) ∨ ∃ p, c = .pattern p)))) := by
  refine ⟨?_, ?_, ?_⟩
  · intro htest
    have hfails : synthesize grammar needle (depth + 1) r draft memory =
        some (.failed, draft, memory) := by
      rcases htest with hbody | hbody
      · exact synthesize_truth hbody (fun found => ⟨found.start != 0, rfl⟩) hopen
      · exact synthesize_truth hbody (fun found => ⟨found.start == 0, rfl⟩) hopen
    exact ⟨hfails, fun course => failed_of_delegation hfails hopen course⟩
  · intro item hbody ending draft' memory'
    rw [synthesize_probe_iff hbody (fun reply => by cases reply <;> rfl)
      (Node.candidates_or_empty item) (fun _ => Or.inr rfl) hopen]
    constructor
    · rintro ⟨pre, c, post, memory₁, hsplit, hfail, hturns⟩
      rcases turns_has_iff.1 hturns with ⟨rfl, q, rfl, hq⟩ | ⟨rfl, rfl, hcase⟩
      · obtain ⟨post', hitem⟩ := rule_of_closed hsplit
        exact Or.inl ⟨rfl, pre, q, post', memory₁, hitem, hfail, hq⟩
      · exact Or.inr ⟨rfl, rfl, pre, c, post, memory₁, hsplit, hfail, hcase⟩
    · rintro (⟨rfl, pre, q, post, memory₁, hitem, hfail, hq⟩ |
        ⟨rfl, rfl, pre, c, post, memory₁, hsplit, hfail, hcase⟩)
      · exact ⟨pre, .rule q, post ++ [.literal ""], memory₁, by simp [hitem], hfail,
          .complete rfl hq⟩
      · exact ⟨pre, c, post, memory₁, hsplit, hfail,
          turns_has_iff.2 (Or.inr ⟨rfl, rfl, hcase⟩)⟩
  · intro items hbody ending draft' memory'
    rw [synthesize_probe_iff hbody (fun reply => by cases reply <;> rfl)
      (Node.candidates_choice_or_empty items) fieldless_of_synthetic hopen]
    simp only [turns_optional_iff]

/-- A rule that takes no notice of the test that it asked for fails with it; a probe completes by
a rule after one that fails, and what that one put out is taken back. -/
theorem combinators_inverted_met :
    let met : Rule := ⟨1, "met"⟩
    let wrong : Rule := ⟨2, "wrong"⟩
    let hasMore : Rule := ⟨3, "has_more"⟩
    let grammar : Grammar Unit := fun
      | 1 => .done (.ok (.record [("k", .string "v")]))
      | 2 => do
          let _ ← Body.ask (.literal "x")
          return .ok (.string "w")
      | 3 => Standard.hasMore
      | 4 => do
          let _ ← Body.ask (.rule hasMore)
          return .ok .nil
      | 5 => Standard.has (.choice [.rule wrong, .choice [.rule met, .literal "y"]])
      | _ => Standard.optional [.rule wrong]
    let needle := Needle.single "k" (.string "v") rfl
    let draft : Draft := ⟨["<"], [], false⟩
    draft.resolved = false ∧
      (∃ ending draft', synthesize grammar needle 2 ⟨4, "test"⟩ draft () =
        some (ending, draft', ()) ∧ ending = .failed ∧ draft' = draft) ∧
      synthesize grammar needle 2 ⟨5, "has"⟩ draft () =
        some (.complete, ⟨["<"], [], true⟩, ()) ∧
      synthesize grammar needle 2 ⟨6, "optional"⟩ draft () =
        some (.unfinished, ⟨["<", ""], [], false⟩, ()) := by
  intro met wrong hasMore grammar needle draft
  obtain ⟨htest, _, _⟩ := @combinators_inverted Unit grammar needle hasMore 0 draft () rfl
  obtain ⟨_, hhas, _⟩ := @combinators_inverted Unit grammar needle ⟨5, "has"⟩ 1 draft () rfl
  obtain ⟨_, _, hoptional⟩ :=
    @combinators_inverted Unit grammar needle ⟨6, "optional"⟩ 1 draft () rfl
  obtain ⟨_, hdelegated⟩ := htest (Or.inl rfl)
  have hwrong : AllFail (synthesize grammar needle 1) draft [.rule wrong] () () := .cons rfl .nil
  refine ⟨rfl, ⟨_, _, rfl, hdelegated (q := ⟨4, "test"⟩) .here rfl⟩, ?_, ?_⟩
  · exact (hhas _ rfl).2 (Or.inl ⟨rfl, [.rule wrong], met, [.literal "y"], (), rfl, hwrong, rfl⟩)
  · exact (hoptional _ rfl).2
      ⟨[.rule wrong], .literal "", [], (), rfl, hwrong,
        Or.inr (Or.inl ⟨rfl, Or.inl ⟨rfl, rfl, rfl⟩⟩)⟩

end TwoWay.Backward
