import TwoWay.Proofs.Backward.Rollback

/-!
Ordered choice while a grammar is inverted. What a candidate makes of a draft on its own is
said apart from requests: a literal puts its text out, a pattern reserves a component or
takes none, a rule is inverted from the draft. A request is then decided by the first of its
candidates that is not a rule that fails. Rules that were tried before leave no trace, not
even in the numbers of later slots, and what stands behind is not looked at.

The bodies of the grammar act through their sessions alone. A body that shared a memory with
others could tell how often it had been tried.
-/

namespace TwoWay.Backward

variable {M : Type}

/-- A rule fails from a draft, and finding that out comes to an end. No other candidate
fails. -/
inductive Fails (grammar : Grammar M) (needle : Needle) (draft : Draft) (memory : M) :
    Candidate → Prop where
  | rule {r : Rule} {depth : Nat} {draft' : Draft} {memory' : M} :
      synthesize grammar needle depth r draft memory = some (.failed, draft', memory') →
      Fails grammar needle draft memory (.rule r)

inductive Does (grammar : Grammar M) (needle : Needle) (draft : Draft) (memory : M) :
    Candidate → Reply → Draft → Prop where
  | literal {text : String} :
      Does grammar needle draft memory (.literal text) (.ok (.literal text))
        ⟨draft.components ++ [text], draft.slots, draft.resolved⟩
  | ahead {p : Pattern} :
      p.zeroWidth = true →
      Does grammar needle draft memory (.pattern p) (.ok (.pattern .empty)) draft
  | pattern {p : Pattern} :
      p.zeroWidth = false →
      Does grammar needle draft memory (.pattern p)
        (.ok (.pattern (.placeholder ⟨draft.slots.length⟩)))
        ⟨draft.components ++ [""], draft.slots ++ [⟨draft.components.length, p⟩], draft.resolved⟩
  | unfinished {r : Rule} {depth : Nat} {draft' : Draft} {memory' : M} :
      synthesize grammar needle depth r draft memory = some (.unfinished, draft', memory') →
      Does grammar needle draft memory (.rule r) (.ok (.rule .nil)) draft'
  | complete {r : Rule} {depth : Nat} {draft' : Draft} {memory' : M} :
      synthesize grammar needle depth r draft memory = some (.complete, draft', memory') →
      Does grammar needle draft memory (.rule r) (.error .resolved) draft'

structure Decides (grammar : Grammar M) (needle : Needle) (draft : Draft) (memory : M)
    (candidates pre : List Candidate) (c : Candidate) (reply : Reply) (draft' : Draft) :
    Prop where
  split : ∃ post, candidates = pre ++ c :: post
  before : ∀ b ∈ pre, Fails grammar needle draft memory b
  first : Does grammar needle draft memory c reply draft'

def Replies (grammar : Grammar M) (needle : Needle) (node : Node) (frame : Frame) (memory : M)
    (reply : Reply) (frame' : Frame) (memory' : M) : Prop :=
  ∃ depth, session (synthesize grammar needle depth) node frame memory =
    some (reply, frame', memory')

section Passing

variable {run : Runner M} {draft draft' : Draft} {memory memory' : M}
  {candidates : List Candidate}

theorem Passed.each (hatomic : run.Atomic) (hignores : run.IgnoresMemory)
    (hopen : draft.resolved = false) (h : Passed run candidates draft memory draft' memory') :
    draft' = draft ∧ memory' = memory ∧
      ∀ b ∈ candidates, attempt run b draft memory = some (none, draft, memory) := by
  induction h with
  | nil => simp
  | cons hc _ ih =>
      obtain rfl := attempt_none hatomic hopen hc
      obtain ⟨rfl, _⟩ := attempt_ignores_memory hignores hc
      obtain ⟨hdraft, hmemory, hrest⟩ := ih hopen
      exact ⟨hdraft, hmemory, List.forall_mem_cons.2 ⟨hc, hrest⟩⟩

theorem passed_of_each
    (h : ∀ b ∈ candidates, attempt run b draft memory = some (none, draft, memory)) :
    Passed run candidates draft memory draft memory := by
  induction candidates with
  | nil => exact .nil
  | cons c rest ih =>
      obtain ⟨hc, hrest⟩ := List.forall_mem_cons.1 h
      exact .cons hc (ih hrest)

end Passing

section Alone

variable {grammar : Grammar M} {needle : Needle} {draft draft' : Draft} {memory memory' : M}

theorem synthesize_unique {r : Rule} {depth depth' : Nat} {ended ended' : Ending × Draft × M}
    (h : synthesize grammar needle depth r draft memory = some ended)
    (h' : synthesize grammar needle depth' r draft memory = some ended') : ended = ended' := by
  have hlarge := synthesize_within (Nat.le_max_left depth depth') h
  have hlarge' := synthesize_within (Nat.le_max_right depth depth') h'
  exact Option.some.inj (hlarge.symm.trans hlarge')

theorem Fails.not_does {c : Candidate} (hfails : Fails grammar needle draft memory c)
    {reply : Reply} : ¬ Does grammar needle draft memory c reply draft' := by
  intro hdoes
  cases hfails with
  | rule hfailed =>
      cases hdoes with
      | unfinished hended =>
          have hsame := congrArg Prod.fst (synthesize_unique hfailed hended)
          cases hsame
      | complete hended =>
          have hsame := congrArg Prod.fst (synthesize_unique hfailed hended)
          cases hsame

theorem does_of_attempt {depth : Nat} {c : Candidate} {reply : Reply}
    (hc : attempt (synthesize grammar needle depth) c draft memory =
      some (some reply, draft', memory')) :
    Does grammar needle draft memory c reply draft' := by
  rcases attempt_cases hc with ⟨text, rfl, hreply, rfl, _⟩ | ⟨p, rfl, hzero, hreply, rfl, _⟩ |
    ⟨p, rfl, htakes, hreply, rfl, _⟩ | ⟨r, ending, rfl, hr, hreply⟩
  · obtain rfl := Option.some.inj hreply
    exact .literal
  · obtain rfl := Option.some.inj hreply
    exact .ahead hzero
  · obtain rfl := Option.some.inj hreply
    exact .pattern htakes
  · cases ending with
    | complete =>
        obtain rfl := Option.some.inj hreply
        exact .complete hr
    | unfinished =>
        obtain rfl := Option.some.inj hreply
        exact .unfinished hr
    | failed => cases hreply

theorem fails_of_attempt {depth : Nat} {c : Candidate}
    (hc : attempt (synthesize grammar needle depth) c draft memory =
      some (none, draft', memory')) :
    Fails grammar needle draft memory c := by
  obtain ⟨r, rfl, hr⟩ := failed_of_attempt hc
  exact .rule hr

variable (honly : ∀ id, (grammar id).SessionOnly)

include honly

theorem attempt_of_does {c : Candidate} {reply : Reply}
    (h : Does grammar needle draft memory c reply draft') :
    ∃ depth, attempt (synthesize grammar needle depth) c draft memory =
      some (some reply, draft', memory) := by
  cases h with
  | literal => exact ⟨0, rfl⟩
  | ahead hzero => exact ⟨0, by simp [attempt, hzero]⟩
  | pattern htakes => exact ⟨0, by simp [attempt, htakes, Draft.reserve]⟩
  | @unfinished r depth draft' memory' hended =>
      obtain ⟨rfl, _⟩ := synthesize_ignores_memory honly needle depth hended
      exact ⟨depth, by simp [attempt, hended]⟩
  | @complete r depth draft' memory' hended =>
      obtain ⟨rfl, _⟩ := synthesize_ignores_memory honly needle depth hended
      exact ⟨depth, by simp [attempt, hended]⟩

variable (hopen : draft.resolved = false)

include hopen

theorem attempt_of_fails {c : Candidate} (h : Fails grammar needle draft memory c) :
    ∃ depth, attempt (synthesize grammar needle depth) c draft memory =
      some (none, draft, memory) := by
  cases h with
  | @rule r depth draft' memory' hfailed =>
      obtain ⟨rfl, _⟩ := synthesize_ignores_memory honly needle depth hfailed
      obtain rfl : draft' = draft := synthesize_atomic grammar needle depth hopen hfailed
      exact ⟨depth, by simp [attempt, hfailed]⟩

theorem passed_of_fails {candidates : List Candidate}
    (h : ∀ c ∈ candidates, Fails grammar needle draft memory c) :
    ∃ depth, Passed (synthesize grammar needle depth) candidates draft memory draft memory := by
  induction candidates with
  | nil => exact ⟨0, .nil⟩
  | cons c rest ih =>
      obtain ⟨hfirst, hothers⟩ := List.forall_mem_cons.1 h
      obtain ⟨depth, hc⟩ := attempt_of_fails honly hopen hfirst
      obtain ⟨depth', hrest⟩ := ih hothers
      exact ⟨max depth depth',
        .cons (attempt_within (synthesize_within (Nat.le_max_left depth depth')) hc)
          (hrest.within (synthesize_within (Nat.le_max_right depth depth')))⟩

theorem fails_of_passed {depth : Nat} {candidates : List Candidate}
    (h : Passed (synthesize grammar needle depth) candidates draft memory draft' memory') :
    ∀ c ∈ candidates, Fails grammar needle draft memory c := by
  obtain ⟨_, _, heach⟩ := h.each (synthesize_atomic grammar needle depth)
    (synthesize_ignores_memory honly needle depth) hopen
  exact fun c hc => fails_of_attempt (heach c hc)

end Alone

section Request

variable {grammar : Grammar M} {needle : Needle} {node other : Node} {frame frame' : Frame}
  {draft draft' : Draft} {memory memory' : M} {pre : List Candidate} {c : Candidate}
  {reply : Reply}

theorem replies_iff (honly : ∀ id, (grammar id).SessionOnly)
    (hopen : frame.draft.resolved = false) (hlive : frame.halted = false) :
    Replies grammar needle node frame memory reply frame' memory' ↔
      memory' = memory ∧
      ((∃ pre c draft',
          Decides grammar needle frame.draft memory node.candidates pre c reply draft' ∧
          frame' = ⟨draft', false⟩) ∨
        ((∀ c ∈ node.candidates, Fails grammar needle frame.draft memory c) ∧
          reply = .error .mismatch ∧ frame' = ⟨frame.draft, true⟩)) := by
  constructor
  · rintro ⟨depth, hreply⟩
    obtain ⟨rfl, _⟩ :=
      session_ignores_memory (synthesize_ignores_memory honly needle depth) hreply
    refine ⟨rfl, ?_⟩
    rcases session_cases hreply with ⟨hresolved, _⟩ | ⟨_, hhalted, _⟩ |
      ⟨_, _, pre, c, post, draft₁, memory₁, draft₂, hnode, hpre, hc, rfl⟩ |
      ⟨_, _, draft₁, hnode, rfl, rfl⟩
    · simp [hopen] at hresolved
    · simp [hlive] at hhalted
    · obtain ⟨rfl, rfl, _⟩ := hpre.each (synthesize_atomic grammar needle depth)
        (synthesize_ignores_memory honly needle depth) hopen
      exact Or.inl ⟨pre, c, draft₂,
        ⟨⟨post, hnode⟩, fails_of_passed honly hopen hpre, does_of_attempt hc⟩, rfl⟩
    · obtain rfl := hnode.draft_eq (synthesize_atomic grammar needle depth) hopen
      exact Or.inr ⟨fails_of_passed honly hopen hnode, rfl, rfl⟩
  · rintro ⟨rfl, ⟨pre, c, draft', ⟨⟨post, hnode⟩, hbefore, hfirst⟩, rfl⟩ | ⟨hfails, rfl, rfl⟩⟩
    · obtain ⟨depth, hpre⟩ := passed_of_fails honly hopen hbefore
      obtain ⟨depth', hc⟩ := attempt_of_does honly hfirst
      exact ⟨max depth depth', session_of_attempt hopen hlive hnode
        (hpre.within (synthesize_within (Nat.le_max_left depth depth')))
        (attempt_within (synthesize_within (Nat.le_max_right depth depth')) hc)⟩
    · obtain ⟨depth, hpassed⟩ := passed_of_fails honly hopen hfails
      exact ⟨depth, session_of_passed hopen hlive hpassed⟩

/-- Whether another node leaves alone what decides a request for a node: the candidate that
decides is there, before it some of those that stood before it, in their order, and behind
it whatever there may be. If no candidate decides then the other node has some of the same. -/
structure Spares (grammar : Grammar M) (needle : Needle) (draft : Draft) (memory : M)
    (node other : Node) : Prop where
  decided : ∀ {pre : List Candidate} {c : Candidate} {reply : Reply} {draft' : Draft},
    Decides grammar needle draft memory node.candidates pre c reply draft' →
    ∃ pre' post', other.candidates = pre' ++ c :: post' ∧ pre'.Sublist pre
  undecided : (∀ c ∈ node.candidates, Fails grammar needle draft memory c) →
    other.candidates.Sublist node.candidates

theorem Spares.of_candidates_eq (hsame : other.candidates = node.candidates) :
    Spares grammar needle draft memory node other where
  decided := by
    rintro pre c reply draft' ⟨⟨post, hsplit⟩, _, _⟩
    exact ⟨pre, post, hsame.trans hsplit, List.Sublist.refl pre⟩
  undecided _ := by rw [hsame]

theorem Decides.unique {candidates pre' : List Candidate} {c' : Candidate} {reply' : Reply}
    {draft₁ draft₂ : Draft}
    (h : Decides grammar needle draft memory candidates pre c reply draft₁)
    (h' : Decides grammar needle draft memory candidates pre' c' reply' draft₂) :
    pre' = pre ∧ c' = c := by
  obtain ⟨⟨post, hsplit⟩, hbefore, hfirst⟩ := h
  obtain ⟨⟨post', hsplit'⟩, hbefore', hfirst'⟩ := h'
  rw [hsplit] at hsplit'
  rcases List.append_eq_append_iff.1 hsplit' with ⟨more, hmore, hrest⟩ | ⟨more, hmore, hrest⟩
  · cases more with
    | nil => exact ⟨by simpa using hmore, (List.cons.inj hrest).1.symm⟩
    | cons b more =>
        obtain ⟨rfl, _⟩ := List.cons.inj hrest
        exact absurd hfirst (hbefore' c (by simp [hmore])).not_does
  · cases more with
    | nil => exact ⟨by simpa using hmore.symm, (List.cons.inj hrest).1⟩
    | cons b more =>
        obtain ⟨rfl, _⟩ := List.cons.inj hrest
        exact absurd hfirst' (hbefore c' (by simp [hmore])).not_does

theorem Spares.of_decides {pre' post' : List Candidate}
    (h : Decides grammar needle draft memory node.candidates pre c reply draft')
    (hother : other.candidates = pre' ++ c :: post') (hsub : pre'.Sublist pre) :
    Spares grammar needle draft memory node other where
  decided := by
    intro pre₁ c₁ reply₁ draft₁ h₁
    obtain ⟨rfl, rfl⟩ := h.unique h₁
    exact ⟨pre', post', hother, hsub⟩
  undecided hfails := by
    obtain ⟨⟨post, hsplit⟩, _, hfirst⟩ := h
    exact absurd hfirst (hfails c (by simp [hsplit])).not_does

theorem Spares.replies (honly : ∀ id, (grammar id).SessionOnly)
    (hopen : frame.draft.resolved = false) (hlive : frame.halted = false)
    (h : Spares grammar needle frame.draft memory node other)
    (hreply : Replies grammar needle node frame memory reply frame' memory') :
    Replies grammar needle other frame memory reply frame' memory' := by
  obtain ⟨rfl, ⟨pre, c, draft', hdecides, rfl⟩ | ⟨hfails, rfl, rfl⟩⟩ :=
    (replies_iff honly hopen hlive).1 hreply
  · obtain ⟨pre', post', hother, hsub⟩ := h.decided hdecides
    have hdecides' : Decides grammar needle frame.draft memory' other.candidates pre' c reply
        draft' :=
      ⟨⟨post', hother⟩, fun b hb => hdecides.before b (hsub.subset hb), hdecides.first⟩
    exact (replies_iff honly hopen hlive).2 ⟨rfl, Or.inl ⟨pre', c, draft', hdecides', rfl⟩⟩
  · have hfails' : ∀ c ∈ other.candidates, Fails grammar needle frame.draft memory' c :=
      fun c hc => hfails c ((h.undecided hfails).subset hc)
    exact (replies_iff honly hopen hlive).2 ⟨rfl, Or.inr ⟨hfails', rfl, rfl⟩⟩

end Request

end TwoWay.Backward
