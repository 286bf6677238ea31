import TwoWay.Grammar.Body

/-!
Routers. The body of a router asks for one choice of rules and comes to the value of the
answer. Routers may stand among the rules of routers, and so make a tree.

What rules come to may be anything here. If each router comes to what the first of its rules
comes to that does not fail, then so does the root of a tree with respect to its leaves: the
first leaf of the first branch that does not fail is the first leaf that does not.
-/

namespace TwoWay

variable {M : Type}

/-- Asks for a node and comes to the value of the answer. -/
def Body.route (node : Node) : Body M Outcome := do
  match ← Body.ask node with
  | .ok found => return .ok found.value
  | .error halt => return .error halt

theorem Body.run_route {σ : Type} {session : Session σ M} {node : Node} {state : σ} {memory : M} :
    (Body.route node).run session state memory =
      (session node state memory).map fun (reply, state, memory) =>
        (reply.map Answer.value, state, memory) := by
  show (Body.request node _).run session state memory = _
  simp only [Body.run]
  cases session node state memory with
  | none => rfl
  | some answered =>
      obtain ⟨reply, state', memory'⟩ := answered
      cases reply <;> rfl

theorem Body.sessionOnly_route (node : Node) : (Body.route node : Body M Outcome).SessionOnly := by
  intro reply
  cases reply <;> trivial

/-- A tree with rules at its leaves and routers above them. -/
inductive RouteTree where
  | leaf (r : Rule)
  | router (r : Rule) (branches : List RouteTree)

namespace RouteTree

def root : RouteTree → Rule
  | .leaf r => r
  | .router r _ => r

def leaves : RouteTree → List Rule
  | .leaf r => [r]
  | .router _ branches => ofBranches branches
where
  ofBranches : List RouteTree → List Rule
    | [] => []
    | branch :: rest => branch.leaves ++ ofBranches rest

theorem leaves_router (r : Rule) (branches : List RouteTree) :
    (router r branches).leaves = branches.flatMap leaves := by
  show leaves.ofBranches branches = _
  induction branches with
  | nil => rfl
  | cons branch rest ih => rw [leaves.ofBranches, ih, List.flatMap_cons]

/-- Whether the inner rules of a tree are routers in a grammar, each over the rules at the
roots of its branches. -/
inductive Routed (grammar : Grammar M) : RouteTree → Prop where
  | leaf {r : Rule} : Routed grammar (.leaf r)
  | router {r : Rule} {branches : List RouteTree} {node : Node} :
      grammar r.id = .route node → node.candidates = (branches.map root).map .rule →
      (∀ branch ∈ branches, Routed grammar branch) → Routed grammar (.router r branches)

end RouteTree

section FirstOf

variable {β : Type}

/-- What the first of some rules comes to that does not come to `fallback`; if they all do,
it is this. The rules after the first such one need not come to anything. -/
inductive FirstOf (fallback : β) (comes : Rule → β → Prop) : List Rule → β → Prop where
  | nil : FirstOf fallback comes [] fallback
  | here {r : Rule} {rest : List Rule} {b : β} :
      comes r b → b ≠ fallback → FirstOf fallback comes (r :: rest) b
  | next {r : Rule} {rest : List Rule} {b : β} :
      comes r fallback → FirstOf fallback comes rest b → FirstOf fallback comes (r :: rest) b

namespace FirstOf

variable {fallback b : β} {comes : Rule → β → Prop} {r : Rule} {rules rest : List Rule}

theorem append_iff :
    FirstOf fallback comes (rules ++ rest) b ↔
      (FirstOf fallback comes rules b ∧ b ≠ fallback) ∨
        (FirstOf fallback comes rules fallback ∧ FirstOf fallback comes rest b) := by
  induction rules with
  | nil =>
      constructor
      · exact fun h => Or.inr ⟨.nil, h⟩
      · rintro (⟨h, hne⟩ | ⟨_, h⟩)
        · cases h
          exact absurd rfl hne
        · exact h
  | cons r rules ih =>
      constructor
      · intro h
        cases h with
        | here hr hne => exact Or.inl ⟨.here hr hne, hne⟩
        | next hr h =>
            rcases ih.1 h with ⟨h, hne⟩ | ⟨hall, h⟩
            · exact Or.inl ⟨.next hr h, hne⟩
            · exact Or.inr ⟨.next hr hall, h⟩
      · rintro (⟨h, hne⟩ | ⟨hall, h⟩)
        · cases h with
          | here hr _ => exact .here hr hne
          | next hr h => exact .next hr (ih.2 (Or.inl ⟨h, hne⟩))
        · cases hall with
          | here _ hne => exact absurd rfl hne
          | next hr hall => exact .next hr (ih.2 (Or.inr ⟨hall, h⟩))

theorem singleton_iff : FirstOf fallback comes [r] b ↔ comes r b := by
  constructor
  · intro h
    cases h with
    | here hr _ => exact hr
    | next hr h =>
        cases h
        exact hr
  · intro hr
    by_cases hb : b = fallback
    · subst hb
      exact .next hr .nil
    · exact .here hr hb

theorem exists_of_forall (h : ∀ r ∈ rules, ∃ b, comes r b) :
    ∃ b, FirstOf fallback comes rules b := by
  induction rules with
  | nil => exact ⟨fallback, .nil⟩
  | cons r rest ih =>
      obtain ⟨hfirst, hrest⟩ := List.forall_mem_cons.1 h
      obtain ⟨b, hb⟩ := hfirst
      by_cases hne : b = fallback
      · subst hne
        obtain ⟨b', hb'⟩ := ih hrest
        exact ⟨b', .next hb hb'⟩
      · exact ⟨b, .here hb hne⟩

theorem cases_mem (h : FirstOf fallback comes rules b) :
    (b = fallback ∧ ∀ r ∈ rules, comes r fallback) ∨ (b ≠ fallback ∧ ∃ r ∈ rules, comes r b) := by
  induction h with
  | nil => exact Or.inl ⟨rfl, by simp⟩
  | here hr hne => exact Or.inr ⟨hne, _, List.mem_cons_self, hr⟩
  | next hr _ ih =>
      rcases ih with ⟨heq, hall⟩ | ⟨hne, r', hmem, hr'⟩
      · exact Or.inl ⟨heq, List.forall_mem_cons.2 ⟨hr, hall⟩⟩
      · exact Or.inr ⟨hne, r', List.mem_cons_of_mem _ hmem, hr'⟩

theorem roots_iff_leaves {branches : List RouteTree}
    (h : ∀ branch ∈ branches, ∀ b,
      comes branch.root b ↔ FirstOf fallback comes branch.leaves b) :
    FirstOf fallback comes (branches.map RouteTree.root) b ↔
      FirstOf fallback comes (branches.flatMap RouteTree.leaves) b := by
  induction branches generalizing b with
  | nil => exact Iff.rfl
  | cons branch branches ih =>
      obtain ⟨hfirst, hrest⟩ := List.forall_mem_cons.1 h
      rw [List.map_cons, List.flatMap_cons, ← List.singleton_append, append_iff, append_iff,
        singleton_iff, singleton_iff, hfirst, hfirst, ih hrest]

end FirstOf

/-- If each router comes to what the first of its rules comes to, then the root of a tree of
routers comes to what the first of its leaves comes to. -/
theorem RouteTree.Routed.comes_iff {grammar : Grammar M} {fallback : β}
    {comes : Rule → β → Prop}
    (hrouter : ∀ {r : Rule} {node : Node} {rules : List Rule}, grammar r.id = .route node →
      node.candidates = rules.map .rule → ∀ b, comes r b ↔ FirstOf fallback comes rules b)
    {tree : RouteTree} (htree : tree.Routed grammar) (b : β) :
    comes tree.root b ↔ FirstOf fallback comes tree.leaves b := by
  induction htree generalizing b with
  | leaf => exact FirstOf.singleton_iff.symm
  | router hbody hnode _ ih =>
      rw [RouteTree.leaves_router]
      exact (hrouter hbody hnode b).trans (FirstOf.roots_iff_leaves ih)

end FirstOf

end TwoWay
