import TwoWay.Proofs.Forward.StrayHalt
import TwoWay.Script.Library

/-!
The halts of scripts. A script that has no halt of another session written into it stops only
with the halts that its own session gave it and with rejections: those that it was told to
raise and those of its expressions. So none of its failures over a text goes unexplained.
-/

namespace TwoWay.Script

section Written

/-- Whether no halt of another session is written into a statement. -/
def Statement.OwnHalts : Statement → Prop
  | .halt h => h.isRejection = true
  | .branch _ yes no => ofBlock yes ∧ ofBlock no
  | .loop body => ofBlock body
  | .attempt body _ => ofBlock body
  | .ask _ _ | .inline _ _ | .assign _ _ | .assignGlobal _ _ | .breakIf _ | .finish _
  | .reject _ => True
where
  ofBlock : List Statement → Prop
    | [] => True
    | s :: rest => s.OwnHalts ∧ ofBlock rest

def Definition.OwnHalts : Definition → Prop
  | .script statements => Statement.OwnHalts.ofBlock statements
  | .has _ | .optional _ | .sequence _ | .mustEnd | .hasMore | .isEnd => True

def Library.OwnHalts (lib : Library) : Prop := ∀ entry ∈ lib.definitions, entry.2.OwnHalts

end Written

section Statements

def EndsExplained (heard : List Reply) (ended : Flow × Env) : Prop :=
  ∀ halt, ended.1 = .halted halt → halt.Explained heard

theorem endsExplained_of_ne {heard : List Reply} {flow : Flow} {env : Env}
    (h : ∀ halt, flow ≠ .halted halt) : EndsExplained heard (flow, env) :=
  fun halt heq => absurd heq (h halt)

theorem endsExplained_halted {heard : List Reply} {halt : Halt} {env : Env}
    (h : halt.Explained heard) : EndsExplained heard (.halted halt, env) :=
  fun _ heq => Flow.halted.inj heq ▸ h

theorem explained_perform (request : Ask) :
    (request.perform : Body Memory Reply).Explained := by
  cases request with
  | node n =>
      exact Body.explained_request (fun answer _ => stopsExplained_ok [] answer) fun _ => rfl
  | literal text =>
      refine Body.explained_request (fun answer hfits => ?_) fun _ => rfl
      obtain rfl := Node.fits_literal.1 hfits
      exact stopsExplained_ok [] (Answer.literal text)
  | pattern p =>
      refine Body.explained_request (fun answer hfits => ?_) fun _ => rfl
      obtain ⟨found, rfl⟩ := Node.fits_pattern.1 hfits
      exact stopsExplained_ok [] (Answer.pattern found)
  | rule r =>
      refine Body.explained_request (fun answer hfits => ?_) fun _ => rfl
      exact stopsExplained_ok [] (Answer.rule answer.value)
  | oneOf nodes =>
      exact Body.explained_request (fun answer _ => stopsExplained_ok [] answer) fun _ => rfl

theorem explained_noted (owner : String) (request : Ask) :
    (noted owner request).Explained :=
  Body.Ends.bind (explained_perform request) fun _ _ hreply _ => hreply

theorem ends_withValue {heard : List Reply} {e : Expr} {env : Env}
    {next : Value → Body Memory (Flow × Env)}
    (hnext : ∀ v, (next v).Ends Forward.Hears EndsExplained heard) :
    (withValue e env next).Ends Forward.Hears EndsExplained heard := by
  intro memory
  cases heval : e.eval env memory.globals with
  | ok v =>
      simp only [heval]
      exact hnext v
  | error message =>
      simp only [heval]
      exact endsExplained_halted (Or.inl rfl)

variable {inline : Rule → Body Memory Outcome} (hinline : ∀ r, (inline r).Explained)
  (owner : String)

include hinline

/-- By induction on the fuel, for a block and for one statement: a halt that comes out of a
block came from the last request before it, or was raised there. -/
theorem explained_block_and_statement (fuel : Nat) :
    (∀ statements env heard, Statement.OwnHalts.ofBlock statements →
      (runBlock inline owner fuel statements env).Ends Forward.Hears EndsExplained heard) ∧
    ∀ (s : Statement) env heard, s.OwnHalts →
      (runStatement inline owner fuel s env).Ends Forward.Hears EndsExplained heard := by
  induction fuel with
  | zero => exact ⟨fun _ _ _ _ => trivial, fun _ _ _ _ => trivial⟩
  | succ fuel ih =>
      obtain ⟨hblock, hstatement⟩ := ih
      constructor
      · intro statements env heard hstatements
        cases statements with
        | nil => exact endsExplained_of_ne nofun
        | cons s rest =>
            refine (hstatement s env heard hstatements.1).bind ?_
            rintro heard ⟨flow, env'⟩ hended
            cases flow with
            | next => exact hblock rest env' heard hstatements.2
            | broken | finished _ | halted _ => exact hended
      · intro s env heard hs
        cases s with
        | ask request name =>
            refine ((explained_noted owner request).after heard).bind fun heard reply hreply => ?_
            cases reply with
            | ok found => exact endsExplained_of_ne nofun
            | error halt => exact endsExplained_halted (hreply halt rfl)
        | inline r name =>
            refine ((hinline r).after heard).bind fun heard outcome houtcome => ?_
            cases outcome with
            | ok v => exact endsExplained_of_ne nofun
            | error halt => exact endsExplained_halted (houtcome halt rfl)
        | assign name e => exact ends_withValue fun _ => endsExplained_of_ne nofun
        | assignGlobal name e => exact ends_withValue fun _ _ => endsExplained_of_ne nofun
        | branch condition yes no =>
            refine ends_withValue fun v => ?_
            split
            · exact hblock yes env heard hs.1
            · exact hblock no env heard hs.2
        -- A round that goes on is followed by the loop itself, with less fuel.
        | loop body =>
            refine (hblock body env heard hs).bind ?_
            rintro heard ⟨flow, env'⟩ hended
            cases flow with
            | next => exact hstatement (.loop body) env' heard hs
            | broken => exact endsExplained_of_ne nofun
            | finished _ | halted _ => exact hended
        | breakIf condition =>
            refine ends_withValue fun v => endsExplained_of_ne fun halt => ?_
            split <;> exact nofun
        | finish e => exact ends_withValue fun _ => endsExplained_of_ne nofun
        | reject e => exact ends_withValue fun _ => endsExplained_halted (Or.inl rfl)
        | attempt body name =>
            refine (hblock body env heard hs).bind ?_
            rintro heard ⟨flow, env'⟩ _
            cases flow with
            | next | broken | finished _ | halted _ => exact endsExplained_of_ne nofun
        | halt h => exact endsExplained_halted (Or.inl hs)

theorem explained_body (fuel : Nat) (statements : List Statement)
    (hstatements : Statement.OwnHalts.ofBlock statements) :
    (body inline owner fuel statements).Explained := by
  refine ((explained_block_and_statement hinline owner fuel).1 statements [] [] hstatements).bind ?_
  rintro heard ⟨flow, env⟩ hended
  cases flow with
  | finished v => exact stopsExplained_ok heard v
  | halted halt => exact stopsExplained_error (hended halt rfl)
  | next | broken => exact stopsExplained_ok heard Value.nil

end Statements

theorem Library.explained_of_ownHalts {lib : Library} (hown : lib.OwnHalts) (fuel id : Nat) :
    (lib.body fuel id).Explained :=
  Library.body_induction trivial
    (fun hinline _ _ hmem fuel => explained_body hinline _ fuel _ (hown _ hmem))
    Standard.explained_has Standard.explained_optional Standard.explained_sequence
    Standard.explained_mustEnd Standard.explained_hasMore Standard.explained_isEnd fuel id

section Failures

open Forward (Opens Stopped)

/-- No failure over a text goes unexplained. Answers are of the kind of the candidate that decided
the request. When each frame of a run stops only with rejections and with halts that it was given,
each place in the tree of a failure is a frame that has recorded the request that failed, or whose
body has raised a rejection in these very words. Bodies that are so for all that a session may say
have such runs, and scripts have such bodies when no other halt is written into them. -/
theorem failures_explained :
    (∀ {M : Type} (run : Forward.Runner M),
      Body.AnsweredInKind (Forward.session run) ∧
      ∀ {node frame memory answer frame' memory'},
        Forward.session run node frame memory = some (.ok answer, frame', memory') →
        ∃ pre c post failures memory₁ remaining, node.candidates = pre ++ c :: post ∧
          Forward.Declined run frame.remaining pre memory failures memory₁ ∧
          Forward.attempt run frame.remaining c memory₁ =
            some (.ok (answer, remaining), memory') ∧ c.Fits answer) ∧
    (∀ {M : Type} (run : Backward.Runner M),
      Body.AnsweredInKind (Backward.session run) ∧
      ∀ {node frame memory answer frame' memory'},
        Backward.session run node frame memory = some (.ok answer, frame', memory') →
        ∃ pre c post draft₁ memory₁ draft₂, node.candidates = pre ++ c :: post ∧
          Backward.Passed run pre frame.draft memory draft₁ memory₁ ∧
          Backward.attempt run c draft₁ memory₁ = some (some (.ok answer), draft₂, memory') ∧
          c.Fits answer) ∧
    (∀ {M : Type} {grammar : Grammar M} {depth r input memory},
      Forward.HaltsExplained grammar depth r input memory →
      (∀ {d q start memory₁ log outcome frame memory₂ e},
        Opens grammar depth r input memory (d + 1) q start memory₁ →
        Body.Course (Forward.session (Forward.parse grammar d)) (grammar q.id)
          (Forward.Frame.start start) memory₁ log (.done outcome) frame memory₂ →
        (frame.finish outcome).outcome = .error e →
        Stopped (Forward.parse grammar d) log outcome e) ∧
      ∀ {remaining failure memory' level e},
        Forward.parse grammar depth r input memory =
          some (⟨remaining, .error failure⟩, memory') →
        (level, e) ∈ failure.preorder 0 →
        ∃ d q start memory₁ log outcome frame memory₂, d + 1 + level = depth ∧
          Opens grammar depth r input memory (d + 1) q start memory₁ ∧
          Body.Course (Forward.session (Forward.parse grammar d)) (grammar q.id)
            (Forward.Frame.start start) memory₁ log (.done outcome) frame memory₂ ∧
          (frame.finish outcome).outcome = .error e ∧
          Stopped (Forward.parse grammar d) log outcome e ∧
          ∀ message, e.cause = .rejected message → outcome = .error (.rejected message)) ∧
    (∀ {M : Type} {grammar : Grammar M}, (∀ id, (grammar id).Explained) →
      ∀ depth r input memory, Forward.HaltsExplained grammar depth r input memory) ∧
    ∀ {lib : Library}, lib.OwnHalts → ∀ fuel id, (lib.grammar fuel id).Explained := by
  refine ⟨?_, ?_, ?_, ?_, fun hown => Library.explained_of_ownHalts hown⟩
  · exact fun run =>
      ⟨(Forward.session_fitting run).answeredInKind, Forward.decided_of_session⟩
  · exact fun run =>
      ⟨(Backward.session_fitting run).answeredInKind, Backward.decided_of_session⟩
  · intro M grammar depth r input memory hhalts
    refine ⟨fun opens course => Forward.stopped_of_course course (hhalts opens course), ?_⟩
    intro remaining failure memory' level e hparse he
    obtain ⟨d, q, start, memory₁, log, outcome, frame, memory₂, hlevel, opens, course, hfinish,
      hstopped⟩ := Forward.stopped_of_preorder hhalts hparse he
    exact ⟨d, q, start, memory₁, log, outcome, frame, memory₂, hlevel, opens, course, hfinish,
      hstopped, fun _ => hstopped.rejected⟩
  · exact fun hbodies _ _ _ _ => Forward.haltsExplained hbodies

/-- A script that goes on after a halt that it caught, and asks once more in vain: its failure
is that of the request it made first, below which stands what the other rule turned down. -/
theorem failures_explained_caught :
    let outer : Rule := ⟨3, "outer"⟩
    let inner : Rule := ⟨4, "inner"⟩
    let lib : Library := (Library.start.define outer <| .script [
        .attempt [.ask (.rule inner) none] (some "halt"),
        .ask (.literal "a") none]).define inner <| .script [
        .ask (.literal "a") none,
        .reject (.const (.string "no"))]
    let turnedDown : Forward.Failure := .mk 1 (.rejected "no") []
    let failure : Forward.Failure := .mk 0 (.unmatched (.rule inner)) [turnedDown]
    let memory : Memory := ⟨[], [⟨"outer", .literal "a", .error .mismatch⟩,
      ⟨"outer", .rule inner, .error .mismatch⟩, ⟨"inner", .literal "a", .ok (.literal "a")⟩]⟩
    lib.OwnHalts ∧
      Forward.parse (lib.grammar 9) 2 outer "ab".toList Memory.start =
        some (⟨"ab".toList, .error failure⟩, memory) ∧
      (1, turnedDown) ∈ failure.preorder 0 ∧
      ∃ log, Stopped (Forward.parse (lib.grammar 9) 0) log (.error (.rejected "no"))
        turnedDown := by
  intro outer inner lib turnedDown failure memory
  have hown : lib.OwnHalts := by
    simp [Library.OwnHalts, lib, Library.define, Library.start, Definition.OwnHalts,
      Statement.OwnHalts, Statement.OwnHalts.ofBlock]
  have hparse : Forward.parse (lib.grammar 9) 2 outer "ab".toList Memory.start =
      some (⟨"ab".toList, .error failure⟩, memory) := by rfl
  have hnested : (1, turnedDown) ∈ failure.preorder 0 :=
    Forward.Failure.mem_preorder.2 (Or.inr ⟨turnedDown, by simp [failure, Forward.Failure.nested],
      Forward.Failure.mem_preorder.2 (Or.inl ⟨rfl, rfl⟩)⟩)
  obtain ⟨_, _, hfailures, hbodies, hscripts⟩ := failures_explained
  obtain ⟨_, htree⟩ := hfailures (hbodies (hscripts hown 9) 2 outer "ab".toList Memory.start)
  obtain ⟨d, q, start, _, log, outcome, _, _, hlevel, _, _, _, hstopped, hsaid⟩ :=
    htree hparse hnested
  obtain rfl : d = 0 := by omega
  obtain rfl := hsaid "no" rfl
  exact ⟨hown, hparse, hnested, log, hstopped⟩

/-- A body may say of itself what is said of a stray halt. -/
theorem failures_explained_said :
    let grammar : Grammar Unit := fun _ => .done (.error (.rejected Forward.strayHalt))
    let failure : Forward.Failure := .mk 0 (.rejected Forward.strayHalt) []
    (∀ id, (grammar id).Explained) ∧
      Forward.parse grammar 1 ⟨0, "r"⟩ [] () = some (⟨[], .error failure⟩, ()) ∧
      (0, failure) ∈ failure.preorder 0 ∧ failure.cause = .rejected Forward.strayHalt :=
  ⟨fun _ => stopsExplained_error (Or.inl rfl), rfl,
    Forward.Failure.mem_preorder.2 (Or.inl ⟨rfl, rfl⟩), rfl⟩

end Failures

end TwoWay.Script
