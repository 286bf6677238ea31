import TwoWay.Grammar.Standard
import TwoWay.Proofs.Forward.Probe
import TwoWay.Proofs.Forward.Shift

/-!
Sequences over a text. The sequence of two lists of nodes is the sequence of the first and, if
that succeeds, the sequence of the second over the text that is left; only the steps are counted
on. Two rules that are asked for one after the other take the same text, but each is one request
then, and a part that fails is told as the failure of that request.
-/

namespace TwoWay.Forward

variable {M σ : Type}

section Run

variable {session : Session σ M} {state : σ} {memory : M}

theorem run_sequence_nil :
    (Standard.sequence []).run session state memory = some (.ok .nil, state, memory) := rfl

theorem run_sequence_cons (node : Node) (rest : List Node) :
    (Standard.sequence (node :: rest)).run session state memory =
      (session node state memory).bind fun (reply, state, memory) =>
        match reply with
        | .ok _ => (Standard.sequence rest).run session state memory
        | .error halt => some (.error halt, state, memory) := by
  show (Body.request node _).run session state memory = _
  simp only [Body.run]
  cases session node state memory with
  | none => rfl
  | some found =>
      obtain ⟨reply, state₁, memory₁⟩ := found
      cases reply <;> rfl

/-- By induction on the nodes that are asked for first. -/
theorem run_sequence_append (xs ys : List Node) :
    (Standard.sequence (xs ++ ys)).run session state memory =
      ((Standard.sequence xs).run session state memory).bind fun (outcome, state, memory) =>
        match outcome with
        | .ok _ => (Standard.sequence ys).run session state memory
        | .error halt => some (.error halt, state, memory) := by
  induction xs generalizing state memory with
  | nil => rfl
  | cons node rest ih =>
      rw [List.cons_append, run_sequence_cons, run_sequence_cons]
      cases session node state memory with
      | none => rfl
      | some found =>
          obtain ⟨reply, state₁, memory₁⟩ := found
          cases reply with
          | ok answer => exact ih
          | error halt => rfl

end Run

section Frame

variable {run : Runner M} {frame frame' : Frame} {memory memory' : M}

theorem run_sequence_cases {nodes : List Node} {outcome : Outcome} (hlive : frame.failure = none)
    (hrun : (Standard.sequence nodes).run (session run) frame memory =
      some (outcome, frame', memory')) :
    (outcome = .ok .nil ∧ frame'.failure = none ∧ frame'.step = frame.step + nodes.length) ∨
      (outcome = .error .mismatch ∧ ∃ failure, frame'.failure = some failure) := by
  induction nodes generalizing frame memory with
  | nil =>
      obtain ⟨rfl, rfl, rfl⟩ : .ok .nil = outcome ∧ frame = frame' ∧ memory = memory' := by
        simpa [run_sequence_nil] using hrun
      exact Or.inl ⟨rfl, hlive, rfl⟩
  | cons node rest ih =>
      rw [run_sequence_cons] at hrun
      obtain ⟨⟨reply, frame₁, memory₁⟩, hreply, hrest⟩ := Option.bind_eq_some_iff.1 hrun
      rcases session_cases hreply with ⟨hfailed, _⟩ |
        ⟨_, _, _, _, _, _, _, remaining, _, _, _, rfl, rfl⟩ | ⟨_, failures, _, rfl, rfl⟩
      · simp [hlive] at hfailed
      · have hadvanced : (frame.advance remaining).failure = none := hlive
        have hcounted : (frame.advance remaining).step = frame.step + 1 := rfl
        rcases ih hadvanced hrest with ⟨houtcome, hfailure, hstep⟩ | hstopped
        · refine Or.inl ⟨houtcome, hfailure, ?_⟩
          rw [hstep, hcounted, List.length_cons]
          omega
        · exact Or.inr hstopped
      · obtain ⟨rfl, rfl, rfl⟩ : Except.error Halt.mismatch = outcome ∧ _ = frame' ∧
            memory₁ = memory' := by
          simpa using hrest
        exact Or.inr ⟨rfl, _, rfl⟩

end Frame

/-- What comes of a run that, if it succeeds, goes on with another over the text it has left. -/
def goOn (ended : Option (Result × M)) (next : List Char → M → Option (Result × M)) :
    Option (Result × M) :=
  ended.bind fun (result, memory) =>
    match result.outcome with
    | .ok _ => next result.remaining memory
    | .error _ => some (result, memory)

/-- What a run comes to for a body that asks for its rule when so many requests were answered,
makes nothing of the value, and stops if there is none: a rule that fails takes nothing. -/
def Result.askedFor (step : Nat) (r : Rule) (input : List Char) (result : Result) : Result :=
  match result.outcome with
  | .ok _ => ⟨result.remaining, .ok .nil⟩
  | .error failure => ⟨input, .error (.mk step (.unmatched (.rule r)) [failure])⟩

section Compose

variable {grammar : Grammar M} {first second whole parts : Rule} {xs ys : List Node}
  {depth : Nat} {input : List Char} {memory : M}

theorem value_of_sequence (hfirst : grammar first.id = Standard.sequence xs)
    {remaining : List Char} {value : Value} {memory' : M}
    (hparse : parse grammar depth first input memory = some (⟨remaining, .ok value⟩, memory')) :
    value = .nil := by
  cases depth with
  | zero => cases hparse
  | succ depth =>
      rw [parse_succ, hfirst] at hparse
      obtain ⟨⟨outcome, frame, memory₁⟩, hrun, hended⟩ := Option.map_eq_some_iff.1 hparse
      have hfinish : (frame.finish outcome).outcome = .ok value :=
        congrArg (fun ended => ended.1.outcome) hended
      obtain ⟨hlive, rfl⟩ := finish_eq_ok.1 hfinish
      rcases run_sequence_cases rfl hrun with ⟨hnil, _⟩ | ⟨hmismatch, _⟩
      · exact Except.ok.inj hnil
      · cases hmismatch

theorem parse_sequence_append (hfirst : grammar first.id = Standard.sequence xs)
    (hsecond : grammar second.id = Standard.sequence ys)
    (hwhole : grammar whole.id = Standard.sequence (xs ++ ys)) :
    parse grammar depth whole input memory =
      goOn (parse grammar depth first input memory) fun rest memory =>
        (parse grammar depth second rest memory).map (Prod.map (Result.shift xs.length) id) := by
  cases depth with
  | zero => rfl
  | succ depth =>
      rw [parse_succ, parse_succ, hwhole, hfirst, run_sequence_append]
      cases hrun : (Standard.sequence xs).run (session (parse grammar depth)) (Frame.start input)
          memory with
      | none => rfl
      | some ended =>
          obtain ⟨outcome, ⟨remaining, step, failure⟩, memory₁⟩ := ended
          rcases run_sequence_cases rfl hrun with ⟨rfl, hlive, hstep⟩ | ⟨rfl, _, hfailed⟩
          · -- The second list is asked for in the frame that the first has left, which is one at
            -- its start but for the steps.
            obtain rfl : failure = none := hlive
            obtain rfl : step = xs.length := by simpa [Frame.start] using hstep
            simp only [Option.bind_some, Option.map_some, goOn, Frame.finish]
            rw [parse_succ, hsecond, ← Frame.start_shift, run_shift]
            exact map_finish_shift _ _
          · obtain rfl : failure = some _ := hfailed
            rfl

theorem parse_sequence_rules (hparts : grammar parts.id =
      Standard.sequence [.rule first, .rule second]) :
    parse grammar (depth + 1) parts input memory =
      goOn ((parse grammar depth first input memory).map
          (Prod.map (Result.askedFor 0 first input) id)) fun rest memory =>
        (parse grammar depth second rest memory).map
          (Prod.map (Result.askedFor 1 second rest) id) := by
  rw [parse_succ, hparts, run_sequence_cons, session_rule rfl]
  cases hfirst : parse grammar depth first input memory with
  | none => simp [Frame.start, hfirst, goOn]
  | some ended =>
      obtain ⟨⟨remaining, outcome⟩, memory₁⟩ := ended
      cases outcome with
      | error failure =>
          simp [Frame.start, hfirst, goOn, Result.askedFor, Frame.finish]
      | ok value =>
          simp only [Frame.start, hfirst, Option.map_some, Option.bind_some, goOn,
            Result.askedFor, Prod.map_apply, id_eq]
          rw [run_sequence_cons, session_rule rfl]
          cases hsecond : parse grammar depth second remaining memory₁ with
          | none => simp [Frame.advance, hsecond]
          | some ended =>
              obtain ⟨⟨rest, outcome⟩, memory₂⟩ := ended
              cases outcome with
              | error failure => simp [Frame.advance, hsecond, Frame.finish, Result.askedFor]
              | ok value =>
                  simp [Frame.advance, hsecond, Frame.finish, Result.askedFor,
                    run_sequence_nil]

end Compose

/-- Sequences compose. The sequence of two lists comes to what the sequence of the first comes to,
if that fails; else it comes to what the sequence of the second does over the text that is left,
a failure being told of so many more steps. Asked for as two rules they take the same text where
both succeed. If one fails then the text from its start on is left, the step tells which of the two
it was, and its own failure is the only one nested. -/
theorem sequences_compose {grammar : Grammar M} {first second whole parts : Rule}
    {xs ys : List Node} (hfirst : grammar first.id = Standard.sequence xs)
    (hsecond : grammar second.id = Standard.sequence ys)
    (hwhole : grammar whole.id = Standard.sequence (xs ++ ys))
    (hparts : grammar parts.id = Standard.sequence [.rule first, .rule second])
    (depth : Nat) (input : List Char) (memory : M) :
    (parse grammar depth whole input memory =
      goOn (parse grammar depth first input memory) fun rest memory =>
        (parse grammar depth second rest memory).map (Prod.map (Result.shift xs.length) id)) ∧
    (parse grammar (depth + 1) parts input memory =
      goOn ((parse grammar depth first input memory).map
          (Prod.map (Result.askedFor 0 first input) id)) fun rest memory =>
        (parse grammar depth second rest memory).map
          (Prod.map (Result.askedFor 1 second rest) id)) ∧
    ∀ remaining value memory',
      parse grammar (depth + 1) parts input memory = some (⟨remaining, .ok value⟩, memory') ↔
        parse grammar depth whole input memory = some (⟨remaining, .ok value⟩, memory') := by
  refine ⟨parse_sequence_append hfirst hsecond hwhole, parse_sequence_rules hparts, ?_⟩
  intro remaining value memory'
  rw [parse_sequence_rules hparts, parse_sequence_append hfirst hsecond hwhole]
  cases hone : parse grammar depth first input memory with
  | none => simp [goOn]
  | some ended =>
      obtain ⟨⟨rest, outcome⟩, memory₁⟩ := ended
      cases outcome with
      | error failure => simp [goOn, Result.askedFor]
      | ok value₁ =>
          cases htwo : parse grammar depth second rest memory₁ with
          | none => simp [goOn, Result.askedFor, htwo]
          | some ended =>
              obtain ⟨⟨rest', outcome⟩, memory₂⟩ := ended
              cases outcome with
              | error failure =>
                  simp [goOn, Result.askedFor, htwo]
              | ok value₂ =>
                  obtain rfl := value_of_sequence hsecond htwo
                  simp [goOn, Result.askedFor, htwo]

/-- The second part fails at its second node, behind a choice in which a rule has failed. As one
sequence this is the fourth step; as two rules it is the second, and all of the second part's text
is left. -/
theorem sequences_compose_second_fails :
    let first : Rule := ⟨0, "sequence"⟩
    let second : Rule := ⟨1, "sequence"⟩
    let xs : List Node := [.literal "a", .literal "b"]
    let ys : List Node := [.choice [.rule ⟨4, "cx"⟩, .literal "c"], .literal "d"]
    let grammar : Grammar Unit := fun
      | 0 => Standard.sequence xs
      | 1 => Standard.sequence ys
      | 2 => Standard.sequence (xs ++ ys)
      | 3 => Standard.sequence [.rule first, .rule second]
      | _ => Standard.sequence [.literal "c", .literal "x"]
    let failure (step : Nat) : Failure := .mk step (.unmatched (.literal "d")) []
    parse grammar 2 second "ce".toList () = some (⟨['e'], .error (failure 1)⟩, ()) ∧
      parse grammar 2 ⟨2, "sequence"⟩ "abce".toList () =
        some (⟨['e'], .error (failure 3)⟩, ()) ∧
      parse grammar 3 ⟨3, "sequence"⟩ "abce".toList () =
        some (⟨['c', 'e'], .error (.mk 1 (.unmatched (.rule second)) [failure 1])⟩, ()) := by
  intro first second xs ys grammar failure
  obtain ⟨hwhole, hparts, _⟩ := @sequences_compose Unit grammar first second ⟨2, "sequence"⟩
    ⟨3, "sequence"⟩ xs ys rfl rfl rfl rfl 2 "abce".toList ()
  exact ⟨rfl, hwhole, hparts⟩

end TwoWay.Forward
