import TwoWay.Proofs.Backward.Rollback
import TwoWay.Proofs.Forward.OrderedChoice
import TwoWay.Proofs.Router.Tree

/-!
Trees of routers in both directions. Such a tree is as good as the list of its leaves: it
comes to what comes of the first leaf that does not fail, as that leaf does by itself. The
leaves that fail before it leave no trace, be it text that they took or components that they
put out, and each router on the way up hands on what it hears.
-/

namespace TwoWay

variable {M : Type}

namespace Backward

variable {grammar : Grammar M} {needle : Needle} {memory memory' : M} {r : Rule} {node : Node}
  {rules : List Rule} {outcome : Inversion} {reply : Reply} {frame : Frame}

/-- What a router that began with an empty draft hears, and what is in its frame then, when
its rules come to an outcome. -/
inductive Heard : Inversion → Reply → Frame → Prop where
  | complete {draft : Draft} : draft.resolved = true →
      Heard (.complete draft.components) (.error .resolved) ⟨draft, false⟩
  | unfinished {draft : Draft} : draft.resolved = false →
      Heard (.unfinished draft.components) (.ok (.rule .nil)) ⟨draft, false⟩
  | none : Heard .none (.error .mismatch) ⟨.empty, true⟩

theorem Heard.finish (h : Heard outcome reply frame) (needle : Needle) :
    Inversion.ofEnding (frame.finish needle .empty (reply.map Answer.value)).1
      (frame.finish needle .empty (reply.map Answer.value)).2 = outcome := by
  cases h with
  | complete hresolved => simp [Frame.finish, hresolved, Inversion.ofEnding]
  | unfinished hopen => simp [Frame.finish, hopen, Except.map, Answer.value, Inversion.ofEnding]
  | none => simp [Frame.finish, Draft.empty, Inversion.ofEnding]

theorem invert_route (hbody : grammar r.id = .route node) (depth : Nat) :
    invert grammar (depth + 1) needle r memory =
      (tryCandidates (synthesize grammar needle depth) node.candidates .empty memory).map
        fun (reply, frame, memory) =>
          (.ofEnding (frame.finish needle .empty (reply.map Answer.value)).1
            (frame.finish needle .empty (reply.map Answer.value)).2, memory) := by
  have hopen : (Frame.mk .empty false).draft.resolved = false := rfl
  have hlive : (Frame.mk .empty false).halted = false := rfl
  rw [invert, synthesize_succ, hbody, Body.run_route, session_of_live hopen hlive,
    Option.map_map, Option.map_map]
  rfl

/-- The rules of a router that are tried to an end have a first one that does not fail, or
all fail. Each is tried from the empty draft, for the ones that failed have left it so. -/
theorem firstOf_of_try (honly : ∀ id, (grammar id).SessionOnly) {depth : Nat}
    (htry : tryCandidates (synthesize grammar needle depth) (rules.map .rule) .empty memory =
      some (reply, frame, memory')) :
    ∃ outcome, FirstOf .none (Inverts grammar needle memory) rules outcome ∧
      Heard outcome reply frame := by
  induction rules with
  | nil =>
      simp only [List.map_nil, tryCandidates, Option.some.injEq, Prod.mk.injEq] at htry
      obtain ⟨rfl, rfl, rfl⟩ := htry
      exact ⟨.none, .nil, .none⟩
  | cons r rest ih =>
      simp only [List.map_cons, tryCandidates] at htry
      cases hr : synthesize grammar needle depth r .empty memory with
      | none => simp [hr] at htry
      | some ended =>
          obtain ⟨ending, draft, memory₁⟩ := ended
          obtain ⟨rfl, _⟩ := synthesize_ignores_memory honly needle depth hr
          have hinverts := inverts_of_synthesize honly hr memory₁
          have hleaves := synthesize_atomic grammar needle depth rfl hr
          cases ending with
          | complete =>
              simp only [hr, Option.some.injEq, Prod.mk.injEq] at htry
              obtain ⟨rfl, rfl, rfl⟩ := htry
              exact ⟨_, .here hinverts (by simp [Inversion.ofEnding]), .complete hleaves⟩
          | unfinished =>
              have hkeeps : draft.Keeps .empty := hleaves
              simp only [hr, Option.some.injEq, Prod.mk.injEq] at htry
              obtain ⟨rfl, rfl, rfl⟩ := htry
              exact ⟨_, .here hinverts (by simp [Inversion.ofEnding]), .unfinished hkeeps.live⟩
          | failed =>
              -- The next rule is tried from the empty draft as well.
              obtain rfl : draft = .empty := hleaves
              simp only [hr] at htry
              obtain ⟨outcome, hfirst, hheard⟩ := ih htry
              exact ⟨outcome, .next hinverts hfirst, hheard⟩

/-- Rules that have a first one that does not fail, or all fail, are tried to an end at each
depth that is enough. -/
theorem try_of_firstOf (hfirst : FirstOf .none (Inverts grammar needle memory) rules outcome) :
    ∃ least, ∀ depth, least ≤ depth → ∃ reply frame,
      tryCandidates (synthesize grammar needle depth) (rules.map .rule) .empty memory =
        some (reply, frame, memory) ∧ Heard outcome reply frame := by
  induction hfirst with
  | nil => exact ⟨0, fun _ _ => ⟨_, _, rfl, .none⟩⟩
  | here hinverts hne =>
      obtain ⟨least, hleast⟩ := hinverts
      refine ⟨least, fun depth hle => ?_⟩
      obtain ⟨ending, draft, hr, rfl⟩ := invert_eq_some.1 (hleast depth hle)
      have hleaves := synthesize_atomic grammar needle depth rfl hr
      simp only [List.map_cons, tryCandidates, hr]
      cases ending with
      | complete => exact ⟨_, _, rfl, .complete hleaves⟩
      | unfinished =>
          have hkeeps : draft.Keeps .empty := hleaves
          exact ⟨_, _, rfl, .unfinished hkeeps.live⟩
      | failed => exact absurd rfl hne
  | next hinverts _ ih =>
      obtain ⟨least, hleast⟩ := hinverts
      obtain ⟨least', hrest⟩ := ih
      refine ⟨max least least', fun depth hle => ?_⟩
      obtain ⟨ending, draft, hr, hnone⟩ :=
        invert_eq_some.1 (hleast depth (Nat.le_trans (Nat.le_max_left _ _) hle))
      have hleaves := synthesize_atomic grammar needle depth rfl hr
      simp only [List.map_cons, tryCandidates, hr]
      cases ending with
      | complete => cases hnone
      | unfinished => cases hnone
      | failed =>
          obtain rfl : draft = .empty := hleaves
          exact hrest depth (Nat.le_trans (Nat.le_max_right _ _) hle)

theorem inverts_route_iff (honly : ∀ id, (grammar id).SessionOnly)
    (hbody : grammar r.id = .route node) (hnode : node.candidates = rules.map .rule)
    (outcome : Inversion) :
    Inverts grammar needle memory r outcome ↔
      FirstOf .none (Inverts grammar needle memory) rules outcome := by
  constructor
  · rintro ⟨least, hleast⟩
    have hinvert := hleast (least + 1) (Nat.le_succ least)
    rw [invert_route hbody, hnode] at hinvert
    obtain ⟨⟨reply, frame, memory₁⟩, htry, hended⟩ := Option.map_eq_some_iff.1 hinvert
    obtain ⟨outcome', hfirst, hheard⟩ := firstOf_of_try honly htry
    obtain rfl : outcome' = outcome :=
      (hheard.finish needle).symm.trans (congrArg Prod.fst hended)
    exact hfirst
  · intro hfirst
    obtain ⟨least, hleast⟩ := try_of_firstOf hfirst
    refine ⟨least + 1, fun depth hle => ?_⟩
    obtain ⟨depth, rfl⟩ : ∃ d, depth = d + 1 := ⟨depth - 1, by omega⟩
    obtain ⟨reply, frame, htry, hheard⟩ := hleast depth (Nat.le_of_succ_le_succ hle)
    rw [invert_route hbody, hnode, htry]
    exact congrArg some (Prod.ext (hheard.finish needle) rfl)

end Backward

namespace Forward

/-- What a run that succeeds makes of its text: its value and the text it leaves. -/
def Result.taken? (result : Result) : Option (Value × List Char) :=
  match result.outcome with
  | .ok value => some (value, result.remaining)
  | .error _ => none

def Takes (grammar : Grammar M) (memory : M) (input : List Char) (r : Rule)
    (taken : Option (Value × List Char)) : Prop :=
  ∃ result, Parses grammar memory r input result ∧ result.taken? = taken

variable {grammar : Grammar M} {memory memory' : M} {input : List Char} {r : Rule} {node : Node}
  {rules : List Rule} {taken taken' : Option (Value × List Char)} {reply : Reply} {frame : Frame}
  {result : Result}

theorem Result.isSuccess_iff : result.isSuccess = true ↔ result.taken? ≠ none := by
  obtain ⟨remaining, outcome⟩ := result
  cases outcome <;> simp [isSuccess, taken?, Except.isOk, Except.toBool]

theorem Takes.unique (h : Takes grammar memory input r taken)
    (h' : Takes grammar memory input r taken') : taken = taken' := by
  obtain ⟨result, ⟨least, hleast⟩, rfl⟩ := h
  obtain ⟨result', ⟨least', hleast'⟩, rfl⟩ := h'
  have hsame := parse_unique (hleast least (Nat.le_refl _)) (hleast' least' (Nat.le_refl _))
  exact congrArg (fun ended : Result × M => ended.1.taken?) hsame

/-- What a router that is run on a text hears, and what its frame is then, when one of its
rules succeeds or all fail. -/
inductive Heard (input : List Char) : Option (Value × List Char) → Reply → Frame → Prop where
  | taken {value : Value} {remaining : List Char} :
      Heard input (some (value, remaining)) (.ok (.rule value))
        ((Frame.start input).advance remaining)
  | nothing {cause : Cause} {nested : List Failure} :
      Heard input none (.error .mismatch) ⟨input, 0, some (.mk 0 cause nested)⟩

theorem Heard.finish (h : Heard input taken reply frame) :
    (frame.finish (reply.map Answer.value)).taken? = taken ∧
      (taken = none → ∃ failure,
        frame.finish (reply.map Answer.value) = ⟨input, .error failure⟩ ∧ failure.step = 0) := by
  cases h with
  | taken => exact ⟨rfl, fun hnone => by cases hnone⟩
  | nothing => exact ⟨rfl, fun _ => ⟨_, rfl, rfl⟩⟩

theorem parse_route (hbody : grammar r.id = .route node) (depth : Nat) :
    parse grammar (depth + 1) r input memory =
      (tryCandidates (parse grammar depth) node (Frame.start input) node.candidates [] memory).map
        fun (reply, frame, memory) => (frame.finish (reply.map Answer.value), memory) := by
  rw [parse_succ, hbody, Body.run_route, Option.map_map]
  rfl

/-- The rules of a router that are tried to an end have a first one that succeeds, or all
fail. Each is tried on the whole text. -/
theorem firstOf_of_try (honly : ∀ id, (grammar id).SessionOnly) {depth : Nat}
    {nested : List Failure}
    (htry : tryCandidates (parse grammar depth) node (Frame.start input) (rules.map .rule) nested
      memory = some (reply, frame, memory')) :
    ∃ taken, FirstOf none (Takes grammar memory input) rules taken ∧
      Heard input taken reply frame := by
  induction rules generalizing nested with
  | nil =>
      simp only [List.map_nil, tryCandidates, Option.some.injEq, Prod.mk.injEq] at htry
      obtain ⟨rfl, rfl, rfl⟩ := htry
      exact ⟨none, .nil, .nothing⟩
  | cons r rest ih =>
      simp only [List.map_cons, tryCandidates] at htry
      cases hr : parse grammar depth r (Frame.start input).remaining memory with
      | none => simp [hr] at htry
      | some ended =>
          obtain ⟨⟨remaining, outcome⟩, memory₁⟩ := ended
          obtain ⟨rfl, _⟩ := parse_ignores_memory honly depth hr
          have hparses := parses_of_parse honly hr memory₁
          cases outcome with
          | ok value =>
              simp only [hr, Option.some.injEq, Prod.mk.injEq] at htry
              obtain ⟨rfl, rfl, rfl⟩ := htry
              exact ⟨some (value, remaining), .here ⟨_, hparses, rfl⟩ (by simp), .taken⟩
          | error failure =>
              simp only [hr] at htry
              obtain ⟨taken, hfirst, hheard⟩ := ih htry
              exact ⟨taken, .next ⟨_, hparses, rfl⟩ hfirst, hheard⟩

/-- Rules that have a first one that succeeds, or all fail, are tried to an end at each depth
that is enough. -/
theorem try_of_firstOf (node : Node)
    (hfirst : FirstOf none (Takes grammar memory input) rules taken) :
    ∃ least, ∀ depth, least ≤ depth → ∀ nested, ∃ reply frame,
      tryCandidates (parse grammar depth) node (Frame.start input) (rules.map .rule) nested
        memory = some (reply, frame, memory) ∧ Heard input taken reply frame := by
  induction hfirst with
  | nil => exact ⟨0, fun _ _ _ => ⟨_, _, rfl, .nothing⟩⟩
  | here htakes hne =>
      obtain ⟨⟨remaining, outcome⟩, ⟨least, hleast⟩, rfl⟩ := htakes
      refine ⟨least, fun depth hle nested => ?_⟩
      have hr : parse grammar depth _ (Frame.start input).remaining memory = _ := hleast depth hle
      simp only [List.map_cons, tryCandidates, hr]
      cases outcome with
      | ok value => exact ⟨_, _, rfl, .taken⟩
      | error failure => exact absurd rfl hne
  | next htakes _ ih =>
      obtain ⟨⟨remaining, outcome⟩, ⟨least, hleast⟩, hnone⟩ := htakes
      obtain ⟨least', hrest⟩ := ih
      refine ⟨max least least', fun depth hle nested => ?_⟩
      have hr : parse grammar depth _ (Frame.start input).remaining memory = _ :=
        hleast depth (Nat.le_trans (Nat.le_max_left _ _) hle)
      simp only [List.map_cons, tryCandidates, hr]
      cases outcome with
      | ok value => cases hnone
      | error failure => exact hrest depth (Nat.le_trans (Nat.le_max_right _ _) hle) _

theorem heard_of_parses (honly : ∀ id, (grammar id).SessionOnly)
    (hbody : grammar r.id = .route node) (hnode : node.candidates = rules.map .rule)
    (hparses : Parses grammar memory r input result) :
    ∃ taken reply frame, FirstOf none (Takes grammar memory input) rules taken ∧
      Heard input taken reply frame ∧ frame.finish (reply.map Answer.value) = result := by
  obtain ⟨least, hleast⟩ := hparses
  have hparse := hleast (least + 1) (Nat.le_succ least)
  rw [parse_route hbody, hnode] at hparse
  obtain ⟨⟨reply, frame, memory₁⟩, htry, hended⟩ := Option.map_eq_some_iff.1 hparse
  obtain ⟨taken, hfirst, hheard⟩ := firstOf_of_try honly htry
  exact ⟨taken, reply, frame, hfirst, hheard, congrArg Prod.fst hended⟩

theorem takes_route_iff (honly : ∀ id, (grammar id).SessionOnly)
    (hbody : grammar r.id = .route node) (hnode : node.candidates = rules.map .rule)
    (taken : Option (Value × List Char)) :
    Takes grammar memory input r taken ↔ FirstOf none (Takes grammar memory input) rules taken := by
  constructor
  · rintro ⟨result, hparses, rfl⟩
    obtain ⟨taken, reply, frame, hfirst, hheard, rfl⟩ := heard_of_parses honly hbody hnode hparses
    rw [hheard.finish.1]
    exact hfirst
  · intro hfirst
    obtain ⟨least, hleast⟩ := try_of_firstOf node hfirst
    obtain ⟨reply, frame, htry, hheard⟩ := hleast least (Nat.le_refl _) []
    have hparse : parse grammar (least + 1) r input memory =
        some (frame.finish (reply.map Answer.value), memory) := by
      rw [parse_route hbody, hnode, htry]
      rfl
    exact ⟨_, parses_of_parse honly hparse memory, hheard.finish.1⟩

theorem isSuccess_iff_exists
    (hfirst : FirstOf none (Takes grammar memory input) rules result.taken?) :
    result.isSuccess = true ↔
      ∃ leaf ∈ rules, ∃ found, Parses grammar memory leaf input found ∧ found.isSuccess = true := by
  rw [Result.isSuccess_iff]
  rcases hfirst.cases_mem with ⟨hnone, hall⟩ | ⟨hne, leaf, hmem, found, hparses, hfound⟩
  · constructor
    · exact fun hne => absurd hnone hne
    · rintro ⟨leaf, hmem, found, hparses, hsuccess⟩
      have hsame : none = found.taken? := (hall leaf hmem).unique ⟨found, hparses, rfl⟩
      exact absurd hsame.symm (Result.isSuccess_iff.1 hsuccess)
  · have hsuccess : found.isSuccess = true := Result.isSuccess_iff.2 (hfound ▸ hne)
    exact ⟨fun _ => ⟨leaf, hmem, found, hparses, hsuccess⟩, fun _ => hne⟩

end Forward

open Backward (Inverts Inversion)
open Forward (Parses Takes)

/-- A tree of routers, all bodies of the grammar acting through their sessions alone. Its inversion
is that of the first leaf, from left to right, whose inversion is not none. On a text it succeeds
as the first leaf does that succeeds; if there is none it fails before any request is answered,
with all of the text left. It comes to an end where its leaves do, and need only do so up to the
first one that does not fail. -/
theorem router_takes_first {grammar : Grammar M} (honly : ∀ id, (grammar id).SessionOnly)
    {r : Rule} {branches : List RouteTree}
    (hrouted : (RouteTree.router r branches).Routed grammar) (memory : M) :
    let leaves := (RouteTree.router r branches).leaves
    (∀ needle,
      (∀ outcome, Inverts grammar needle memory r outcome ↔
        FirstOf .none (Inverts grammar needle memory) leaves outcome) ∧
      ((∀ leaf ∈ leaves, ∃ outcome, Inverts grammar needle memory leaf outcome) →
        ∃ outcome, Inverts grammar needle memory r outcome)) ∧
    ∀ input,
      (∀ taken, Takes grammar memory input r taken ↔
        FirstOf none (Takes grammar memory input) leaves taken) ∧
      ((∀ leaf ∈ leaves, ∃ result, Parses grammar memory leaf input result) →
        ∃ result, Parses grammar memory r input result) ∧
      ∀ result, Parses grammar memory r input result →
        (result.isSuccess = true ↔ ∃ leaf ∈ leaves, ∃ found,
          Parses grammar memory leaf input found ∧ found.isSuccess = true) ∧
        (result.isSuccess = false →
          ∃ failure, result = ⟨input, .error failure⟩ ∧ failure.step = 0) := by
  intro leaves
  have hinverts : ∀ needle outcome, Inverts grammar needle memory r outcome ↔
      FirstOf .none (Inverts grammar needle memory) leaves outcome :=
    fun needle => hrouted.comes_iff (Backward.inverts_route_iff honly)
  have htakes : ∀ input taken, Takes grammar memory input r taken ↔
      FirstOf none (Takes grammar memory input) leaves taken :=
    fun input => hrouted.comes_iff (Forward.takes_route_iff honly)
  refine ⟨fun needle => ⟨hinverts needle, ?_⟩, fun input => ⟨htakes input, ?_, ?_⟩⟩
  · intro hleaves
    obtain ⟨outcome, hfirst⟩ : ∃ outcome,
        FirstOf .none (Inverts grammar needle memory) leaves outcome :=
      FirstOf.exists_of_forall hleaves
    exact ⟨outcome, (hinverts needle outcome).2 hfirst⟩
  · intro hleaves
    have htaken : ∀ leaf ∈ leaves, ∃ taken, Takes grammar memory input leaf taken := by
      intro leaf hleaf
      obtain ⟨result, hparses⟩ := hleaves leaf hleaf
      exact ⟨_, result, hparses, rfl⟩
    obtain ⟨taken, hfirst⟩ : ∃ taken, FirstOf none (Takes grammar memory input) leaves taken :=
      FirstOf.exists_of_forall htaken
    obtain ⟨result, hparses, _⟩ := (htakes input taken).2 hfirst
    exact ⟨result, hparses⟩
  · intro result hparses
    have hfirst := (htakes input result.taken?).1 ⟨result, hparses, rfl⟩
    refine ⟨Forward.isSuccess_iff_exists hfirst, fun hfailed => ?_⟩
    cases hrouted with
    | router hbody hnode _ =>
        obtain ⟨taken, reply, frame, _, hheard, rfl⟩ :=
          Forward.heard_of_parses honly hbody hnode hparses
        obtain ⟨htaken, hfails⟩ := hheard.finish
        have hnone : taken = none := by
          rw [← htaken]
          by_contra hne
          rw [Forward.Result.isSuccess_iff.2 hne] at hfailed
          cases hfailed
        exact hfails hnone

/-- A router over a router and a rule. The first leaf puts a text out and reserves a component
before it fails, and takes no text that begins otherwise; the tree comes to what the second
leaf comes to. -/
theorem router_takes_first_nested :
    let grammar : Grammar Unit := fun
      | 0 => .route (.choice [.rule ⟨1, "inner"⟩, .rule ⟨4, "third"⟩])
      | 1 => .route (.choice [.rule ⟨2, "first"⟩, .rule ⟨3, "second"⟩])
      | 2 => do
          let _ ← Body.ask (.literal "a")
          let _ ← Body.ask (.pattern Standard.endProbe)
          return .ok (.map [("key", .string "other")])
      | 3 => do
          let _ ← Body.ask (.literal "b")
          return .ok (.map [("key", .string "value")])
      | _ => return .ok .nil
    let tree : RouteTree := .router ⟨0, "outer"⟩
      [.router ⟨1, "inner"⟩ [.leaf ⟨2, "first"⟩, .leaf ⟨3, "second"⟩], .leaf ⟨4, "third"⟩]
    let needle := Needle.single "key" (.string "value") rfl
    (∀ id, (grammar id).SessionOnly) ∧ tree.Routed grammar ∧
      Inverts grammar needle () ⟨0, "outer"⟩ (.complete ["b"]) ∧
      Takes grammar () ['b', 'c'] ⟨0, "outer"⟩
        (some (.map [("key", .string "value")], ['c'])) := by
  intro grammar tree needle
  have honly : ∀ id, (grammar id).SessionOnly := by
    intro id
    match id with
    | 0 => exact Body.sessionOnly_route _
    | 1 => exact Body.sessionOnly_route _
    | 2 => exact fun _ _ => trivial
    | 3 => exact fun _ => trivial
    | _ + 4 => trivial
  have hinner : (RouteTree.router ⟨1, "inner"⟩ [.leaf ⟨2, "first"⟩, .leaf ⟨3, "second"⟩]).Routed
      grammar := .router rfl rfl (by simp [RouteTree.Routed.leaf])
  have hrouted : tree.Routed grammar := .router rfl rfl (by simp [RouteTree.Routed.leaf, hinner])
  have hfailed : Backward.synthesize grammar needle 1 ⟨2, "first"⟩ .empty () =
      some (.failed, .empty, ()) := rfl
  have hcomplete : Backward.synthesize grammar needle 1 ⟨3, "second"⟩ .empty () =
      some (.complete, ⟨["b"], [], true⟩, ()) := rfl
  have hdeclined : Forward.parse grammar 1 ⟨2, "first"⟩ ['b', 'c'] () =
      some (⟨['b', 'c'], .error (.mk 0 (.unmatched (.literal "a")) [])⟩, ()) := rfl
  have htaken : Forward.parse grammar 1 ⟨3, "second"⟩ ['b', 'c'] () =
      some (⟨['c'], .ok (.map [("key", .string "value")])⟩, ()) := rfl
  obtain ⟨hinverts, htakes⟩ := router_takes_first honly hrouted ()
  refine ⟨honly, hrouted, ((hinverts needle).1 _).2 ?_, ((htakes _).1 _).2 ?_⟩
  · exact .next (Backward.inverts_of_synthesize honly hfailed ())
      (.here (Backward.inverts_of_synthesize honly hcomplete ()) (by decide))
  · exact .next ⟨_, Forward.parses_of_parse honly hdeclined (), rfl⟩
      (.here ⟨_, Forward.parses_of_parse honly htaken (), rfl⟩ (by simp))

end TwoWay
