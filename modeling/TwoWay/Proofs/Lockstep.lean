import Mathlib.Logic.Relation
import TwoWay.Grammar.Standard
import TwoWay.Proofs.Backward.Rollback
import TwoWay.Proofs.Forward.Attempt

/-!
Grammars of texts run in lockstep in the two directions. A rule is textual when
it and all the rules it calls on ask for rules and for choices of texts alone,
and those that it calls on come to nothing. When such a rule is inverted to an
end that is no failure, then a run of it over the text put out, with any text
behind, gets the same replies in the same order, and leaves what is behind.

Between two points of an inversion the draft grows by some texts, and a run over
a text moves from an input that begins with them to the rest of it. This is kept
by each request, and so by each body and each rule.
-/

namespace TwoWay

open Relation (ReflTransGen TransGen)

variable {M α : Type}

/-- Whether a node is a rule alone, or offers texts alone. -/
def Node.IsTextual (node : Node) : Prop :=
  (∃ r, node.candidates = [.rule r]) ∨ ∀ c ∈ node.candidates, ∃ text, c = .literal text

/-- The replies that a textual node may get, when rules come to nothing. -/
inductive Node.Gets (node : Node) : Reply → Prop where
  | text {text : String} :
      .literal text ∈ node.candidates → node.Gets (.ok (.literal text))
  | rule {r : Rule} : node.candidates = [.rule r] → node.Gets (.ok (.rule .nil))
  | mismatch : node.Gets (.error .mismatch)

namespace Body

inductive Leads : Body M α → Body M α → Prop where
  | here {body : Body M α} : Leads body body
  | next {node : Node} {next : Reply → Body M α} {reply : Reply} {body : Body M α} :
      node.Gets reply → Leads (next reply) body → Leads (.request node next) body

/-- Whether a body goes on with a request for a textual node, if it goes on. -/
def IsTextual : Body M α → Prop
  | .done _ => True
  | .request node _ => node.IsTextual
  | .load _ => False
  | .store _ _ => False
  | .stuck => True

end Body

def Delegates (grammar : Grammar M) (r q : Rule) : Prop :=
  ∃ node next, (grammar r.id).Leads (.request node next) ∧ node.candidates = [.rule q]

/-- A rule whose body, and the bodies of the rules below it, ask for textual nodes
whatever happens, and whose rules below come to nothing when they come to a
value. -/
structure Textual (grammar : Grammar M) (r : Rule) : Prop where
  asks : ∀ ⦃q⦄, ReflTransGen (Delegates grammar) r q →
    ∀ ⦃body⦄, (grammar q.id).Leads body → body.IsTextual
  empty : ∀ ⦃q⦄, TransGen (Delegates grammar) r q →
    ∀ ⦃value⦄, (grammar q.id).Leads (.done (.ok value)) → value = .nil

theorem Textual.below {grammar : Grammar M} {r q : Rule} (h : Textual grammar r)
    (hq : Delegates grammar r q) : Textual grammar q where
  asks _ hbelow := h.asks (.head hq hbelow)
  empty _ hbelow := h.empty (.head hq hbelow)

/-- Between two frames of an inversion the needle stays unmet and no slot is
made; and unless the later one has halted, the texts put out are taken off any
input by `takes`. -/
structure Lockstep (before after : Backward.Frame) (takes : List Char → List Char → Prop) :
    Prop where
  live : after.draft.resolved = false
  slots : after.draft.slots = before.draft.slots
  texts : after.halted = false → before.halted = false ∧
    ∃ texts, after.draft.components = before.draft.components ++ texts ∧
      ∀ rest, takes ((String.join texts).toList ++ rest) rest

namespace Lockstep

variable {frame frame₁ frame' : Backward.Frame} {takes takes₁ takes₂ : List Char → List Char → Prop}

theorem refl (hlive : frame.draft.resolved = false) (htakes : ∀ rest, takes rest rest) :
    Lockstep frame frame takes := by
  refine ⟨hlive, rfl, fun hrunning => ⟨hrunning, [], by simp, ?_⟩⟩
  intro rest
  exact htakes rest

theorem of_halted (hlive : frame'.draft.resolved = false)
    (hslots : frame'.draft.slots = frame.draft.slots) (hhalted : frame'.halted = true) :
    Lockstep frame frame' takes := by
  refine ⟨hlive, hslots, fun hrunning => ?_⟩
  rw [hhalted] at hrunning
  cases hrunning

theorem trans (h₁ : Lockstep frame frame₁ takes₁) (h₂ : Lockstep frame₁ frame' takes₂)
    (hcompose : ∀ input middle rest, takes₁ input middle → takes₂ middle rest →
      takes input rest) :
    Lockstep frame frame' takes := by
  refine ⟨h₂.live, h₂.slots.trans h₁.slots, fun hrunning => ?_⟩
  obtain ⟨hrunning₁, texts₂, hcomponents₂, htakes₂⟩ := h₂.texts hrunning
  obtain ⟨hrunning₀, texts₁, hcomponents₁, htakes₁⟩ := h₁.texts hrunning₁
  refine ⟨hrunning₀, texts₁ ++ texts₂, ?_, fun rest => ?_⟩
  · rw [hcomponents₂, hcomponents₁, List.append_assoc]
  · have hsplit : (String.join (texts₁ ++ texts₂)).toList ++ rest =
        (String.join texts₁).toList ++ ((String.join texts₂).toList ++ rest) := by
      rw [String.join_append, String.toList_append, List.append_assoc]
    rw [hsplit]
    exact hcompose _ _ _ (htakes₁ _) (htakes₂ _)

theorem imp (h : Lockstep frame frame' takes₁)
    (himp : ∀ input rest, takes₁ input rest → takes input rest) :
    Lockstep frame frame' takes := by
  refine ⟨h.live, h.slots, fun hrunning => ?_⟩
  obtain ⟨hbefore, texts, hcomponents, htakes⟩ := h.texts hrunning
  exact ⟨hbefore, texts, hcomponents, fun rest => himp _ _ (htakes rest)⟩

end Lockstep

/-- Whether a rule is never completed by one way of inverting rules, and by one
way of running them comes to nothing over the texts that it puts out. -/
def ReadBack (invert : Backward.Runner M) (parse : Forward.Runner M) (r : Rule) : Prop :=
  ∀ ⦃draft memory ending draft' memory'⦄, draft.resolved = false →
    invert r draft memory = some (ending, draft', memory') →
    ending ≠ .complete ∧
      Lockstep ⟨draft, false⟩ ⟨draft', decide (ending = .failed)⟩ fun input rest =>
        ∀ other, parse r input other = some (⟨rest, .ok .nil⟩, other)

section Request

variable {invert : Backward.Runner M} {parse : Forward.Runner M} {node : Node} {reply : Reply}
  {frame frame' : Backward.Frame} {memory memory' : M}

def Answers (parse : Forward.Runner M) (node : Node) (reply : Reply)
    (input rest : List Char) : Prop :=
  ∀ step memory, Forward.session parse node ⟨input, step, none⟩ memory =
    some (reply, ⟨rest, step + 1, none⟩, memory)

theorem lockstep_of_texts (htexts : ∀ c ∈ node.candidates, ∃ text, c = .literal text)
    (hlive : frame.draft.resolved = false) (hrunning : frame.halted = false)
    (hreply : Backward.session invert node frame memory = some (reply, frame', memory')) :
    node.Gets reply ∧ Lockstep frame frame' (Answers parse node reply) := by
  rw [Backward.session_of_live hlive hrunning] at hreply
  cases hnode : node.candidates with
  | nil =>
      rw [hnode] at hreply
      simp only [Backward.tryCandidates, Option.some.injEq, Prod.mk.injEq] at hreply
      obtain ⟨rfl, rfl, rfl⟩ := hreply
      exact ⟨.mismatch, .of_halted hlive rfl rfl⟩
  | cons c rest =>
      obtain ⟨text, rfl⟩ : ∃ text, c = .literal text := htexts c (by simp [hnode])
      rw [hnode] at hreply
      simp only [Backward.tryCandidates, Option.some.injEq, Prod.mk.injEq] at hreply
      obtain ⟨rfl, rfl, rfl⟩ := hreply
      refine ⟨.text (by simp [hnode]), ⟨hlive, rfl, fun _ => ⟨hrunning, [text], rfl, ?_⟩⟩⟩
      intro input step other
      have hdrop : Text.dropLiteral? text.toList ((String.join [text]).toList ++ input) =
          some input := by
        rw [Text.dropLiteral?_eq_some]
        simp
      have hfirst : Forward.attempt parse ((String.join [text]).toList ++ input) (.literal text)
          other = some (.ok (.literal text, input), other) := by
        simp only [Forward.attempt, hdrop]
      exact Forward.session_of_attempt rfl hnode .nil hfirst

theorem lockstep_of_rule {r : Rule} (hnode : node.candidates = [.rule r])
    (hread : ReadBack invert parse r) (hlive : frame.draft.resolved = false)
    (hrunning : frame.halted = false)
    (hreply : Backward.session invert node frame memory = some (reply, frame', memory')) :
    node.Gets reply ∧ Lockstep frame frame' (Answers parse node reply) := by
  obtain ⟨draft, halted⟩ := frame
  obtain rfl : halted = false := hrunning
  rw [Backward.session_of_live hlive rfl, hnode] at hreply
  simp only [Backward.tryCandidates] at hreply
  cases hr : invert r draft memory with
  | none => simp [hr] at hreply
  | some ended =>
      obtain ⟨ending, draft₁, memory₁⟩ := ended
      obtain ⟨hending, hstep⟩ := hread hlive hr
      cases ending with
      | complete => exact absurd rfl hending
      | unfinished =>
          simp only [hr, Option.some.injEq, Prod.mk.injEq] at hreply
          obtain ⟨rfl, rfl, rfl⟩ := hreply
          refine ⟨.rule hnode, hstep.imp fun input rest hparse step other => ?_⟩
          have hfirst : Forward.attempt parse input (.rule r) other =
              some (.ok (.rule .nil, rest), other) := by
            simp only [Forward.attempt, hparse other]
          exact Forward.session_of_attempt rfl hnode .nil hfirst
      | failed =>
          simp only [hr, Option.some.injEq, Prod.mk.injEq] at hreply
          obtain ⟨rfl, rfl, rfl⟩ := hreply
          exact ⟨.mismatch, .of_halted hstep.live hstep.slots rfl⟩

theorem session_lockstep (hnode : node.IsTextual)
    (hread : ∀ ⦃r⦄, node.candidates = [.rule r] → ReadBack invert parse r)
    (hlive : frame.draft.resolved = false)
    (hreply : Backward.session invert node frame memory = some (reply, frame', memory')) :
    node.Gets reply ∧ Lockstep frame frame' (Answers parse node reply) := by
  cases hhalted : frame.halted with
  | true =>
      simp only [Backward.session, hlive, hhalted, Bool.false_eq_true, if_false, if_true,
        Option.some.injEq, Prod.mk.injEq] at hreply
      obtain ⟨rfl, rfl, rfl⟩ := hreply
      exact ⟨.mismatch, .of_halted hlive rfl hhalted⟩
  | false =>
      rcases hnode with ⟨r, hr⟩ | htexts
      · exact lockstep_of_rule hr (hread hr) hlive hhalted hreply
      · exact lockstep_of_texts htexts hlive hhalted hreply

end Request

section Run

variable {invert : Backward.Runner M} {parse : Forward.Runner M}

/-- Whether a run of a body over `input` comes to an outcome and leaves `rest`,
all its requests answered. -/
def Reads (parse : Forward.Runner M) (body : Body M Outcome) (outcome : Outcome)
    (input rest : List Char) : Prop :=
  ∀ step memory, ∃ step', body.run (Forward.session parse) ⟨input, step, none⟩ memory =
    some (outcome, ⟨rest, step', none⟩, memory)

/-- The induction is on the body: each request is answered alike in the two
directions, so what is left of the body is the same in both. -/
theorem run_lockstep {body : Body M Outcome} {outcome : Outcome} {frame frame' : Backward.Frame}
    {memory memory' : M} (htextual : ∀ ⦃b⦄, body.Leads b → b.IsTextual)
    (hread : ∀ ⦃node next r⦄, body.Leads (.request node next) → node.candidates = [.rule r] →
      ReadBack invert parse r)
    (hlive : frame.draft.resolved = false)
    (hrun : body.run (Backward.session invert) frame memory = some (outcome, frame', memory')) :
    body.Leads (.done outcome) ∧ Lockstep frame frame' (Reads parse body outcome) := by
  induction body generalizing frame memory with
  | done a =>
      simp only [Body.run, Option.some.injEq, Prod.mk.injEq] at hrun
      obtain ⟨rfl, rfl, rfl⟩ := hrun
      exact ⟨.here, .refl hlive fun rest step other => ⟨step, rfl⟩⟩
  | request node next ih =>
      simp only [Body.run] at hrun
      cases hreply : Backward.session invert node frame memory with
      | none => simp [hreply] at hrun
      | some found =>
          obtain ⟨reply, frame₁, memory₁⟩ := found
          simp only [hreply] at hrun
          obtain ⟨hgets, hstep⟩ :=
            session_lockstep (htextual .here) (fun _ hnode => hread .here hnode) hlive hreply
          obtain ⟨hleads, hrest⟩ := ih reply (fun _ hb => htextual (.next hgets hb))
            (fun _ _ _ hb hnode => hread (.next hgets hb) hnode) hstep.live hrun
          refine ⟨.next hgets hleads, hstep.trans hrest ?_⟩
          intro input middle rest hanswers hreads step other
          obtain ⟨step', hnext⟩ := hreads (step + 1) other
          refine ⟨step', ?_⟩
          simp only [Body.run, hanswers step other]
          exact hnext
  | load next => exact (htextual .here).elim
  | store stored next => exact (htextual .here).elim
  | stuck => simp [Body.run] at hrun

end Run

section Rule

variable {grammar : Grammar M} {needle : Needle} {depth : Nat} {r : Rule}

theorem parse_of_reads {outcome : Outcome} {input rest : List Char} {value : Value}
    (hreads : Reads (Forward.parse grammar depth) (grammar r.id) outcome input rest)
    (hvalue : outcome = .ok value) (memory : M) :
    Forward.parse grammar (depth + 1) r input memory = some (⟨rest, .ok value⟩, memory) := by
  obtain ⟨step, hrun⟩ := hreads 0 memory
  rw [Forward.parse_succ]
  simp only [Forward.Frame.start, hrun, hvalue, Option.map_some]
  rfl

theorem Textual.body_lockstep (h : Textual grammar r)
    (hbelow : ∀ ⦃q⦄, Delegates grammar r q →
      ReadBack (Backward.synthesize grammar needle depth) (Forward.parse grammar depth) q)
    {outcome : Outcome} {frame frame' : Backward.Frame} {memory memory' : M}
    (hlive : frame.draft.resolved = false)
    (hbody : (grammar r.id).run (Backward.session (Backward.synthesize grammar needle depth))
      frame memory = some (outcome, frame', memory')) :
    (grammar r.id).Leads (.done outcome) ∧
      Lockstep frame frame' (Reads (Forward.parse grammar depth) (grammar r.id) outcome) := by
  refine run_lockstep ?_ ?_ hlive hbody
  · intro body hleads
    exact h.asks .refl hleads
  · intro node next q hleads hnode
    exact hbelow ⟨node, next, hleads, hnode⟩

/-- A textual rule that comes to nothing is read back. The induction is on the
depth to which rules nest. -/
theorem readBack_of_empty (h : Textual grammar r)
    (hempty : ∀ ⦃value⦄, (grammar r.id).Leads (.done (.ok value)) → value = .nil) :
    ReadBack (Backward.synthesize grammar needle depth) (Forward.parse grammar depth) r := by
  induction depth generalizing r with
  | zero =>
      intro draft memory ending draft' memory' _ hrun
      simp [Backward.synthesize] at hrun
  | succ depth ih =>
      intro draft memory ending draft' memory' hlive hrun
      have hleaves := Backward.synthesize_atomic grammar needle (depth + 1) hlive hrun
      obtain ⟨outcome, frame, hbody, hfinish⟩ := Backward.synthesize_succ_eq_some.1 hrun
      have hlive' : (Backward.Frame.mk draft false).draft.resolved = false := hlive
      obtain ⟨hleads, hstep⟩ := h.body_lockstep
        (fun q hq => ih (h.below hq) fun value hvalue => h.empty (.single hq) hvalue)
        hlive' hbody
      rcases Backward.finish_cases hstep.live hfinish with ⟨rfl, _⟩ |
        ⟨hrunning, hnil, rfl, rfl⟩ | ⟨_, _, value, hne, hvalue, _⟩
      · obtain rfl : draft' = draft := hleaves
        exact ⟨by decide, .of_halted hlive rfl rfl⟩
      · refine ⟨by decide, hstep.live, hstep.slots, fun _ => ?_⟩
        obtain ⟨_, texts, hcomponents, hreads⟩ := hstep.texts hrunning
        refine ⟨rfl, texts, hcomponents, fun rest other => ?_⟩
        exact parse_of_reads (hreads rest) hnil other
      · rw [hvalue] at hleads
        exact absurd (hempty hleads) hne

theorem Textual.invert_lockstep (h : Textual grammar r) {memory memory' : M}
    {inversion : Backward.Inversion}
    (hinvert : Backward.invert grammar (depth + 1) needle r memory = some (inversion, memory')) :
    ∃ ending draft frame outcome, inversion = .ofEnding ending draft ∧
      Lockstep ⟨.empty, false⟩ frame
        (Reads (Forward.parse grammar depth) (grammar r.id) outcome) ∧
      frame.finish needle .empty outcome = (ending, draft) := by
  obtain ⟨⟨ending, draft, memory₁⟩, hrun, hended⟩ := Option.map_eq_some_iff.1 hinvert
  obtain ⟨rfl, rfl⟩ := Prod.mk.inj hended
  obtain ⟨outcome, frame, hbody, hfinish⟩ := Backward.synthesize_succ_eq_some.1 hrun
  have hbelow : ∀ ⦃q⦄, Delegates grammar r q →
      ReadBack (Backward.synthesize grammar needle depth) (Forward.parse grammar depth) q := by
    intro q hq
    exact readBack_of_empty (h.below hq) fun value hvalue => h.empty (.single hq) hvalue
  obtain ⟨_, hstep⟩ := h.body_lockstep hbelow rfl hbody
  exact ⟨ending, draft, frame, outcome, rfl, hstep, hfinish⟩

theorem parse_of_lockstep {frame : Backward.Frame} {outcome : Outcome} {value : Value}
    (hstep : Lockstep ⟨.empty, false⟩ frame
      (Reads (Forward.parse grammar depth) (grammar r.id) outcome))
    (hrunning : frame.halted = false) (hvalue : outcome = .ok value) (rest : String)
    {larger : Nat} (hle : depth + 1 ≤ larger) (memory : M) :
    Forward.parse grammar larger r (String.join frame.draft.components ++ rest).toList memory =
      some (⟨rest.toList, .ok value⟩, memory) := by
  obtain ⟨_, texts, hcomponents, hreads⟩ := hstep.texts hrunning
  have htexts : frame.draft.components = texts := hcomponents
  rw [htexts, String.toList_append]
  exact Forward.parse_within hle (parse_of_reads (hreads rest.toList) hvalue memory)

end Rule

/-- The texts that the inversion of a textual rule puts out for a needle are read
back by the rule, whatever text follows them, and all of it is left. A complete
inversion is read back as a value that equals the needle's fields, and one that
stays unfinished as nothing. -/
theorem inversion_read_back {grammar : Grammar M} {r : Rule} (h : Textual grammar r)
    (needle : Needle) (depth : Nat) (memory : M) (rest : String) :
    (∀ texts memory',
      Backward.invert grammar depth needle r memory = some (.complete texts, memory') →
      ∃ value, (value == needle.value) = true ∧ ∀ larger other, depth ≤ larger →
        Forward.parse grammar larger r (String.join texts ++ rest).toList other =
          some (⟨rest.toList, .ok value⟩, other)) ∧
    (∀ texts memory',
      Backward.invert grammar depth needle r memory = some (.unfinished texts, memory') →
      ∀ larger other, depth ≤ larger →
        Forward.parse grammar larger r (String.join texts ++ rest).toList other =
          some (⟨rest.toList, .ok .nil⟩, other)) := by
  cases depth with
  | zero =>
      constructor
      all_goals
        intro texts memory' hinvert
        simp [Backward.invert, Backward.synthesize] at hinvert
  | succ depth =>
      constructor
      · intro texts memory' hinvert
        obtain ⟨ending, draft, frame, outcome, hending, hstep, hfinish⟩ :=
          h.invert_lockstep hinvert
        rcases Backward.finish_cases hstep.live hfinish with ⟨rfl, _⟩ | ⟨_, _, rfl, _⟩ |
          ⟨hrunning, rfl, value, _, hvalue, hsettle⟩
        · cases hending
        · cases hending
        · -- No slot was made, so the value met the needle as it stood.
          have hslots : frame.draft.slots = [] := hstep.slots
          obtain ⟨hcomponents, heq⟩ := Backward.Draft.settle?_of_no_slots hslots hsettle
          obtain rfl : texts = draft.components := Backward.Inversion.complete.inj hending
          rw [hcomponents]
          refine ⟨value, heq, fun larger other hle => ?_⟩
          exact parse_of_lockstep hstep hrunning hvalue rest hle other
      · intro texts memory' hinvert larger other hle
        obtain ⟨ending, draft, frame, outcome, hending, hstep, hfinish⟩ :=
          h.invert_lockstep hinvert
        rcases Backward.finish_cases hstep.live hfinish with ⟨rfl, _⟩ |
          ⟨hrunning, hnil, rfl, rfl⟩ | ⟨_, rfl, _⟩
        · cases hending
        · obtain rfl : texts = frame.draft.components :=
            Backward.Inversion.unfinished.inj hending
          exact parse_of_lockstep hstep hrunning hnil rest hle other
        · cases hending

theorem leads_sequence {nodes : List Node} {body : Body M Outcome}
    (h : (Standard.sequence nodes).Leads body) :
    (∃ node ∈ nodes, ∃ next, body = .request node next) ∨ body = .done (.ok .nil) ∨
      ∃ halt, body = .done (.error halt) := by
  induction nodes with
  | nil =>
      cases h
      exact Or.inr (Or.inl rfl)
  | cons node rest ih =>
      cases h with
      | here => exact Or.inl ⟨node, List.mem_cons_self, _, rfl⟩
      | @next _ _ reply _ hgets hleads =>
          cases reply with
          | error halt =>
              cases hleads
              exact Or.inr (Or.inr ⟨halt, rfl⟩)
          | ok answer =>
              rcases ih hleads with ⟨node', hnode, next, rfl⟩ | hdone
              · exact Or.inl ⟨node', List.mem_cons_of_mem _ hnode, next, rfl⟩
              · exact Or.inr hdone

/-- A rule that asks for one below it, whose halt it would catch, and for a choice of
which the needle wants the first. -/
theorem inversion_read_back_answer :
    let grammar : Grammar Unit := fun
      | 0 => do
          match ← Body.ask (.rule ⟨1, "lead"⟩) with
          | .error _ => return .ok .nil
          | .ok _ =>
              match ← Body.ask (.choice [.literal "no", .literal "not"]) with
              | .ok found => return .ok (.map [("answer", found.value)])
              | .error halt => return .error halt
      | _ => Standard.sequence [.literal "I say "]
    let needle := Needle.single "answer" (.string "no") rfl
    let r : Rule := ⟨0, "answer"⟩
    Textual grammar r ∧
      Backward.invert grammar 2 needle r () = some (.complete ["I say ", "no"], ()) ∧
      ∃ value, (value == needle.value) = true ∧
        Forward.parse grammar 2 r "I say not".toList () = some (⟨['t'], .ok value⟩, ()) := by
  intro grammar needle r
  -- What is left of the outer body at some point: one of its requests, or its value.
  have htop : ∀ body, (grammar 0).Leads body →
      (∃ next, body = .request (.rule ⟨1, "lead"⟩) next) ∨
      (∃ next, body = .request (.choice [.literal "no", .literal "not"]) next) ∨
      ∃ outcome, body = .done outcome := by
    intro body hleads
    cases hleads with
    | here => exact Or.inl ⟨_, rfl⟩
    | @next _ _ reply _ hgets hleads =>
        cases reply with
        | error halt =>
            cases hleads
            exact Or.inr (Or.inr ⟨_, rfl⟩)
        | ok answer =>
            cases hleads with
            | here => exact Or.inr (Or.inl ⟨_, rfl⟩)
            | @next _ _ reply _ hgets hleads =>
                cases reply with
                | error halt =>
                    cases hleads
                    exact Or.inr (Or.inr ⟨_, rfl⟩)
                | ok found =>
                    cases hleads
                    exact Or.inr (Or.inr ⟨_, rfl⟩)
  have hbelow : ∀ q p, Delegates grammar q p → p.id = 1 := by
    rintro ⟨id, name⟩ p ⟨node, next, hleads, hnode⟩
    cases id with
    | zero =>
        rcases htop _ hleads with ⟨_, hrequest⟩ | ⟨_, hrequest⟩ | ⟨_, hdone⟩
        · obtain ⟨rfl, _⟩ := Body.request.inj hrequest
          cases hnode
          rfl
        · obtain ⟨rfl, _⟩ := Body.request.inj hrequest
          cases hnode
        · cases hdone
    | succ id =>
        rcases leads_sequence hleads with ⟨node', hmem, _, hrequest⟩ | hdone | ⟨_, hdone⟩
        · obtain ⟨rfl, _⟩ := Body.request.inj hrequest
          obtain rfl := List.mem_singleton.1 hmem
          cases hnode
        · cases hdone
        · cases hdone
  have htextual : Textual grammar r := by
    constructor
    · rintro ⟨id, name⟩ _ body hleads
      cases id with
      | zero =>
          rcases htop _ hleads with ⟨_, rfl⟩ | ⟨_, rfl⟩ | ⟨_, rfl⟩
          · exact Or.inl ⟨_, rfl⟩
          · refine Or.inr ?_
            simp [Node.candidates, Node.candidates.ofMembers]
          · trivial
      | succ id =>
          rcases leads_sequence hleads with ⟨node, hmem, _, rfl⟩ | rfl | ⟨_, rfl⟩
          · obtain rfl := List.mem_singleton.1 hmem
            refine Or.inr ?_
            simp [Node.candidates]
          · trivial
          · trivial
    · intro q hq value hleads
      obtain ⟨p, _, hlast⟩ := Relation.TransGen.tail'_iff.1 hq
      rw [hbelow p q hlast] at hleads
      rcases leads_sequence hleads with ⟨_, _, _, hrequest⟩ | hdone | ⟨_, hdone⟩
      · cases hrequest
      · cases hdone
        rfl
      · cases hdone
  have hinvert : Backward.invert grammar 2 needle r () = some (.complete ["I say ", "no"], ()) :=
    rfl
  obtain ⟨value, heq, hparse⟩ := (inversion_read_back htextual needle 2 () "t").1 _ _ hinvert
  exact ⟨htextual, hinvert, value, heq, hparse 2 () (Nat.le_refl 2)⟩

end TwoWay
