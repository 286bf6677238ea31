import TwoWay.Grammar.Standard
import TwoWay.Proofs.Forward.Attempt

/-!
Probes over a text. A probe asks for what it was given and, as the last alternative, for the
empty text. So its request is always answered: as the request for the node itself is, or else
by the empty text where the node is not matched at all. The rule comes to a value in either
case, and the text that it leaves is what the node itself leaves, or all of it.
-/

namespace TwoWay.Forward

variable {M : Type}

section Request

variable {run : Runner M} {node item : Node} {frame : Frame} {memory : M}

theorem tryCandidates_append_none {candidates : List Candidate} {nested : List Failure}
    (htry : tryCandidates run item frame candidates nested memory = none)
    (post : List Candidate) (nested' : List Failure) :
    tryCandidates run node frame (candidates ++ post) nested' memory = none := by
  induction candidates generalizing nested nested' memory with
  | nil => cases htry
  | cons c rest ih =>
      rw [tryCandidates_cons] at htry
      rw [List.cons_append, tryCandidates_cons]
      cases hc : attempt run frame.remaining c memory with
      | none => rfl
      | some found =>
          obtain ⟨result, memory₁⟩ := found
          simp only [hc] at htry ⊢
          cases result with
          | ok decided => cases htry
          | error failure => exact ih htry _

theorem session_or_empty (hlive : frame.failure = none)
    (hnode : node.candidates = item.candidates ++ [.literal ""]) :
    session run node frame memory =
      (session run item frame memory).map fun (reply, frame', memory') =>
        match reply with
        | .ok answer => (.ok answer, frame', memory')
        | .error _ => (.ok (.literal ""), frame.advance frame.remaining, memory') := by
  cases hitem : session run item frame memory with
  | none =>
      have htry : tryCandidates run item frame item.candidates [] memory = none := by
        simpa [session, hlive] using hitem
      simp [session, hlive, hnode, tryCandidates_append_none htry]
  | some found =>
      obtain ⟨reply, frame', memory'⟩ := found
      rcases session_cases hitem with ⟨hfailed, _⟩ |
        ⟨_, pre, c, post, failures, memory₁, answer, remaining, hsplit, hpre, hc, rfl, rfl⟩ |
        ⟨_, failures, hdeclined, rfl, rfl⟩
      · simp [hlive] at hfailed
      · rw [hsplit, List.append_assoc, List.cons_append] at hnode
        rw [session_of_attempt hlive hnode hpre hc]
        rfl
      · have hempty : attempt run frame.remaining (.literal "") memory' =
            some (.ok (.literal "", frame.remaining), memory') := rfl
        rw [session_of_attempt hlive hnode hdeclined hempty]
        rfl

theorem live_of_answer {answer : Answer} {frame' : Frame} {memory' : M}
    (hreply : session run node frame memory = some (.ok answer, frame', memory')) :
    frame'.failure = none := by
  rcases session_cases hreply with ⟨_, herror, _⟩ |
    ⟨hlive, _, _, _, _, _, _, _, _, _, _, _, rfl⟩ | ⟨_, _, _, herror, _⟩
  · cases herror
  · exact hlive
  · cases herror

end Request

section Probe

/-- What a probe comes to when the request for its node by itself, on the text `input`, was
replied to: the value that it makes of the answer, with the text left there, or else `otherwise`,
with all of the text. -/
def probed (value : Answer → Value) (otherwise : Value) (input : List Char) :
    Reply × Frame × M → Result × M
  | (.ok answer, frame, memory) => (⟨frame.remaining, .ok (value answer)⟩, memory)
  | (.error _, _, memory) => (⟨input, .ok otherwise⟩, memory)

theorem isSuccess_probed (value : Answer → Value) (otherwise : Value) (input : List Char)
    (replied : Reply × Frame × M) : (probed value otherwise input replied).1.isSuccess = true := by
  obtain ⟨reply, frame, memory⟩ := replied
  cases reply <;> rfl

variable {grammar : Grammar M} {r : Rule} {node item : Node} {value : Answer → Value}

/-- A rule that asks for a node or the empty text and works a value out of the answer always
comes to one. -/
theorem parse_or_empty {next : Reply → Body M Outcome} (hbody : grammar r.id = .request node next)
    (hnext : ∀ answer, next (.ok answer) = .done (.ok (value answer)))
    (hnode : node.candidates = item.candidates ++ [.literal ""]) (depth : Nat)
    (input : List Char) (memory : M) :
    parse grammar (depth + 1) r input memory =
      (session (parse grammar depth) item (.start input) memory).map
        (probed value (value (.literal "")) input) := by
  rw [parse_succ, hbody]
  simp only [Body.run]
  rw [session_or_empty rfl hnode]
  cases hitem : session (parse grammar depth) item (.start input) memory with
  | none => rfl
  | some found =>
      obtain ⟨reply, frame, memory'⟩ := found
      cases reply with
      | ok answer =>
          have hlive := live_of_answer hitem
          simp [hnext, Body.run, Frame.finish, hlive, probed]
      | error halt => simp [hnext, Body.run, Frame.finish, Frame.advance, Frame.start, probed]

theorem isSuccess_of_parse {otherwise : Value}
    (hparse : ∀ depth input memory, parse grammar (depth + 1) r input memory =
      (session (parse grammar depth) item (.start input) memory).map
        (probed value otherwise input)) {depth : Nat} {input : List Char} {memory memory' : M}
    {result : Result} (hended : parse grammar depth r input memory = some (result, memory')) :
    result.isSuccess = true := by
  cases depth with
  | zero => cases hended
  | succ depth =>
      rw [hparse] at hended
      obtain ⟨replied, _, hresult⟩ := Option.map_eq_some_iff.1 hended
      rw [← isSuccess_probed value otherwise input replied, hresult]

end Probe

/-- Probes never fail, and take what their node would take. A probe comes to an end when the
request for the node alone does. If that is answered, the probe leaves the same text; `has` says
whether anything but the empty text answered it, and `optional` has the value of the answer, or
nothing when it was the empty text. If it is not answered, the probe takes nothing and says
so. -/
theorem probes_take_what_matches {grammar : Grammar M} {r : Rule} :
    (∀ item, grammar r.id = Standard.has item →
      (∀ depth input memory,
        parse grammar (depth + 1) r input memory =
          (session (parse grammar depth) item (.start input) memory).map
            (probed (fun answer => .bool !answer.isEmptyLiteral) (.bool false) input)) ∧
      ∀ {depth input memory result memory'},
        parse grammar depth r input memory = some (result, memory') →
        result.isSuccess = true) ∧
    (∀ items, grammar r.id = Standard.optional items →
      (∀ depth input memory,
        parse grammar (depth + 1) r input memory =
          (session (parse grammar depth) (.choice items) (.start input) memory).map
            (probed (fun answer => if answer.isEmptyLiteral then .nil else answer.value) .nil
              input)) ∧
      ∀ {depth input memory result memory'},
        parse grammar depth r input memory = some (result, memory') →
        result.isSuccess = true) := by
  constructor
  · intro item hbody
    have hparse := parse_or_empty hbody (fun _ => rfl) (Node.candidates_or_empty item)
    exact ⟨hparse, isSuccess_of_parse hparse⟩
  · intro items hbody
    have hparse := parse_or_empty hbody (fun _ => rfl) (Node.candidates_choice_or_empty items)
    exact ⟨hparse, isSuccess_of_parse hparse⟩

/-- The empty text within a choice counts as no match, a rule without a value counts as one, and
what a rule had taken before it failed is given back. -/
theorem probes_take_what_matches_pair :
    let pair : Rule := ⟨0, "pair"⟩
    let grammar : Grammar Unit := fun
      | 0 => Standard.sequence [.literal "a", .literal "b"]
      | 1 => Standard.has (.choice [.rule pair, .choice [.literal "", .literal "a"]])
      | _ => Standard.optional [.rule pair]
    parse grammar 2 ⟨1, "has"⟩ "ac".toList () = some (⟨"ac".toList, .ok (.bool false)⟩, ()) ∧
      parse grammar 2 ⟨1, "has"⟩ "abc".toList () = some (⟨['c'], .ok (.bool true)⟩, ()) ∧
      parse grammar 2 ⟨2, "optional"⟩ "abc".toList () = some (⟨['c'], .ok .nil⟩, ()) ∧
      parse grammar 2 ⟨2, "optional"⟩ "ac".toList () = some (⟨"ac".toList, .ok .nil⟩, ()) := by
  intro pair grammar
  obtain ⟨hhas, _⟩ := (@probes_take_what_matches Unit grammar ⟨1, "has"⟩).1 _ rfl
  obtain ⟨hoptional, _⟩ := (@probes_take_what_matches Unit grammar ⟨2, "optional"⟩).2 _ rfl
  exact ⟨hhas 1 _ (), hhas 1 _ (), hoptional 1 _ (), hoptional 1 _ ()⟩

end TwoWay.Forward
