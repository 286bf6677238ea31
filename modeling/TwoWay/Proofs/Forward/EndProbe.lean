import TwoWay.Grammar.Standard
import TwoWay.Proofs.Forward.Attempt
import TwoWay.Proofs.Forward.Interspersed
import TwoWay.Proofs.Regex.Anchoring

/-!
Looking at the end of a text, and ahead in it. The probe for the end matches at the end of any
text, wherever that is, and tells by the bytes before it whether anything is left; the end itself
is matched where nothing is. A pattern that is looked ahead for matches where it would match and
takes nothing. So a rule may ask all of this at any point and come to what it comes to without.
-/

namespace TwoWay

open Regex (Cursor)

namespace Regex

theorem Expr.matchAt?_looks (first second : Look) (c : Cursor) :
    (Expr.seq (.look first) (.look second)).matchAt? c =
      if first.holds c.before c.rest.head? && second.holds c.before c.rest.head? then
        some ⟨⟨c, c⟩, []⟩
      else none := by
  cases hfirst : first.holds c.before c.rest.head? <;>
    cases hsecond : second.holds c.before c.rest.head? <;>
      simp [Expr.matchAt?, Expr.run, Matcher.done, hfirst, hsecond]

end Regex

namespace Standard

theorem matchFront?_endProbe (input : List Char) :
    endProbe.matchFront? input =
      some (⟨.string "", [], [], Text.byteLength input⟩, 0) := by
  have hfind : endProbe.find? input = some ⟨⟨Cursor.stop input, Cursor.stop input⟩, []⟩ := rfl
  have hstart : (Cursor.stop input).offset = input.length := rfl
  have hreport : endProbe.report input ⟨⟨Cursor.stop input, Cursor.stop input⟩, []⟩ =
      ⟨.string "", [], [], Text.byteLength input⟩ := by
    simp [Pattern.report, endProbe, anchored, Regex.Match.text, Regex.Span.text, hstart]
  simp only [Pattern.matchFront?, hfind, hreport, Regex.Match.isEmpty, hstart]
  simp [endProbe, anchored]

/-- The end is matched where nothing is left, and only there. -/
theorem matchFront?_endOfInput (input : List Char) :
    endOfInput.matchFront? input = if input = [] then some (.empty, 0) else none := by
  by_cases hempty : input = []
  · subst hempty
    rfl
  · rw [if_neg hempty, Pattern.matchFront?_eq_none rfl]
    refine Or.inl fun k hk => ?_
    -- The start of the text is before all of it, and its end is behind all of it.
    have hnever : ¬ ((Cursor.after input k).before = none ∧ input[k]? = none) := by
      rintro ⟨hbefore, hafter⟩
      have hzero := Regex.eq_zero_of_before hk hbefore
      have hend := Regex.eq_length_of_after hk hafter
      exact hempty (List.length_eq_zero_iff.1 (hend.symm.trans hzero))
    have hfails : ¬ ((Regex.Look.startText.holds (Cursor.after input k).before input[k]? &&
        Regex.Look.endText.holds (Cursor.after input k).before input[k]?) = true) := by
      simpa [Regex.Look.holds] using hnever
    show (Regex.Expr.seq (.look .startText) (.look .endText)).matchAt? _ = none
    rw [Regex.Expr.matchAt?_looks, Regex.Cursor.head?_after, if_neg hfails]

end Standard

theorem Pattern.matchFront?_asZeroWidth (p : Pattern) (input : List Char) :
    p.asZeroWidth.matchFront? input =
      (p.matchFront? input).map fun (found, _) => (found, 0) := by
  have hfind : p.asZeroWidth.find? input = p.find? input := rfl
  simp only [Pattern.matchFront?, hfind]
  cases p.find? input with
  | none => rfl
  | some m =>
      simp only
      split
      · rfl
      · rfl

namespace Forward

open Body (Course Exchange)

variable {M : Type} {grammar : Grammar M} {r : Rule}

section Rules

theorem run_of_pattern {session : Session Frame M} {p : Pattern} {value : Pattern.Match → Value}
    {frame frame₁ : Frame} {memory memory₁ : M} (found : Except Halt Pattern.Match)
    (hreply : session (.pattern p) frame memory = some (found.map .pattern, frame₁, memory₁)) :
    Body.run session (do
        match ← Body.pattern p with
        | .ok found => return .ok (value found)
        | .error halt => return .error halt) frame memory =
      some (found.map value, frame₁, memory₁) := by
  show Body.run session (.request (.pattern p) _) frame memory = _
  simp only [Body.run, hreply]
  cases found <;> rfl

theorem parse_of_pattern {p : Pattern} (value : Pattern.Match → Value)
    (hbody : grammar r.id = do
      match ← Body.pattern p with
      | .ok found => return .ok (value found)
      | .error halt => return .error halt) (depth : Nat) (input : List Char) (memory : M) :
    parse grammar (depth + 1) r input memory =
      some (match p.matchFront? input with
        | some (found, taken) => ⟨input.drop taken, .ok (value found)⟩
        | none => ⟨input, .error (.mk 0 (.unmatched (.pattern p)) [])⟩, memory) := by
  have hasked := @session_pattern M (parse grammar depth) (.start input) memory rfl p
  rw [parse_succ, hbody]
  cases hfront : p.matchFront? input with
  | none =>
      have hreply : session (parse grammar depth) (.pattern p) (.start input) memory =
          some (.error .mismatch, ⟨input, 0, some (.mk 0 (.unmatched (.pattern p)) [])⟩,
            memory) := by
        rw [hasked]
        simp [Frame.start, hfront]
      rw [run_of_pattern (.error .mismatch) hreply]
      rfl
  | some matched =>
      obtain ⟨found, taken⟩ := matched
      have hreply : session (parse grammar depth) (.pattern p) (.start input) memory =
          some (.ok (.pattern found), ⟨input.drop taken, 1, none⟩, memory) := by
        rw [hasked]
        simp [Frame.start, hfront, Frame.advance]
      rw [run_of_pattern (.ok found) hreply]
      rfl

theorem parse_mustEnd (hbody : grammar r.id = Standard.mustEnd) (depth : Nat)
    (input : List Char) (memory : M) :
    parse grammar (depth + 1) r input memory =
      some (if input = [] then ⟨input, .ok .nil⟩
        else ⟨input, .error (.mk 0 (.unmatched (.pattern Standard.endOfInput)) [])⟩, memory) := by
  rw [parse_of_pattern (fun _ => .nil) hbody, Standard.matchFront?_endOfInput]
  by_cases hempty : input = []
  · simp [hempty]
  · simp [hempty]

theorem parse_hasMore (hbody : grammar r.id = Standard.hasMore) (depth : Nat)
    (input : List Char) (memory : M) :
    parse grammar (depth + 1) r input memory =
      some (⟨input, .ok (.bool (decide (input ≠ [])))⟩, memory) := by
  rw [parse_of_pattern (fun found => .bool (found.start != 0)) hbody,
    Standard.matchFront?_endProbe]
  have hmore : (Text.byteLength input != 0) = decide (input ≠ []) := by
    rw [Bool.eq_iff_iff]
    simp [Text.byteLength_eq_zero]
  simp [hmore]

theorem parse_isEnd (hbody : grammar r.id = Standard.isEnd) (depth : Nat)
    (input : List Char) (memory : M) :
    parse grammar (depth + 1) r input memory =
      some (⟨input, .ok (.bool (decide (input = [])))⟩, memory) := by
  rw [parse_of_pattern (fun found => .bool (found.start == 0)) hbody,
    Standard.matchFront?_endProbe]
  simp [beq_eq_decide, Text.byteLength_eq_zero]

end Rules

section Ahead

variable {run : Runner M} {frame frame' : Frame} {memory memory' : M} {p : Pattern}

theorem session_ahead (hlive : frame.failure = none) (p : Pattern) :
    session run (.ahead p) frame memory =
      some (match p.matchFront? frame.remaining with
        | some (found, _) => (.ok (.pattern found), frame.advance frame.remaining, memory)
        | none =>
            (.error .mismatch,
              { frame with failure := some (.mk frame.step (.unmatched (.ahead p)) []) },
              memory)) := by
  rw [Node.ahead, session_pattern hlive, Pattern.matchFront?_asZeroWidth]
  cases p.matchFront? frame.remaining <;> rfl

theorem ahead_answered_iff {answer : Answer} :
    session run (.ahead p) frame memory = some (.ok answer, frame', memory') ↔
      frame' = frame.advance frame.remaining ∧
        ∃ after, session run (.pattern p) frame memory = some (.ok answer, after, memory') := by
  cases hfailure : frame.failure with
  | some failure => simp [session, hfailure]
  | none =>
      rw [session_ahead hfailure, session_pattern hfailure]
      cases p.matchFront? frame.remaining with
      | none => simp
      | some matched =>
          simp only [Option.some.injEq, Prod.mk.injEq, Except.ok.injEq]
          constructor
          · rintro ⟨rfl, rfl, rfl⟩
            exact ⟨rfl, _, rfl, rfl, rfl⟩
          · rintro ⟨rfl, _, rfl, rfl, rfl⟩
            exact ⟨rfl, rfl, rfl⟩

theorem remaining_of_ahead {reply : Reply}
    (hreply : session run (.ahead p) frame memory = some (reply, frame', memory')) :
    frame'.remaining = frame.remaining := by
  cases hfailure : frame.failure with
  | some failure =>
      obtain ⟨_, rfl, _⟩ : Except.error Halt.mismatch = reply ∧ frame = frame' ∧
          memory = memory' := by
        simpa [session, hfailure] using hreply
      rfl
  | none =>
      rw [session_ahead hfailure] at hreply
      cases hfront : p.matchFront? frame.remaining with
      | none =>
          simp only [hfront, Option.some.injEq, Prod.mk.injEq] at hreply
          obtain ⟨_, rfl, _⟩ := hreply
          rfl
      | some matched =>
          simp only [hfront, Option.some.injEq, Prod.mk.injEq] at hreply
          obtain ⟨_, rfl, _⟩ := hreply
          rfl

end Ahead

/-- The requests that only look at a text of which this is left: whether there is more of it, that
there is none where there is none, and for a pattern ahead where it matches. -/
inductive Looks (grammar : Grammar M) : Node → List Char → Prop where
  | hasMore {r : Rule} {remaining : List Char} :
      grammar r.id = Standard.hasMore → Looks grammar (.rule r) remaining
  | isEnd {r : Rule} {remaining : List Char} :
      grammar r.id = Standard.isEnd → Looks grammar (.rule r) remaining
  | mustEnd {r : Rule} : grammar r.id = Standard.mustEnd → Looks grammar (.rule r) []
  | ahead {p : Pattern} {remaining : List Char} :
      (p.matchFront? remaining).isSome = true → Looks grammar (.ahead p) remaining

/-- A rule that comes to a value and takes nothing may be asked for unseen. -/
theorem unseen_of_parse {run : Runner M} {remaining : List Char} {value : Value}
    (hparse : ∀ memory, run r remaining memory = some (⟨remaining, .ok value⟩, memory)) :
    Unseen run (.rule r) remaining := by
  refine ⟨.rule value, fun step memory => ?_⟩
  rw [session_rule rfl, hparse]
  rfl

theorem Looks.unseen {node : Node} {remaining : List Char}
    (h : Looks grammar node remaining) (depth : Nat) :
    Unseen (parse grammar (depth + 1)) node remaining := by
  cases h with
  | hasMore hbody => exact unseen_of_parse fun memory => parse_hasMore hbody depth remaining memory
  | isEnd hbody => exact unseen_of_parse fun memory => parse_isEnd hbody depth remaining memory
  | mustEnd hbody => exact unseen_of_parse fun memory => parse_mustEnd hbody depth [] memory
  | ahead hfront =>
      obtain ⟨⟨found, taken⟩, hfound⟩ := Option.isSome_iff_exists.1 hfront
      refine ⟨.pattern found, fun step memory => ?_⟩
      rw [session_ahead rfl, hfound]
      rfl

/-- Looking at the end of a text and ahead in it is exact, takes nothing, and is not seen: a rule
that makes the requests of another and between them looks at the text, going on whatever it hears,
comes to the same value and leaves the same text, or fails for the same reason but for the number
of the step, and all the requests of the other rule are answered as they are without the looks. -/
theorem looks_unseen {grammar : Grammar M} {r : Rule} (depth : Nat) (input : List Char)
    (memory : M) :
    (grammar r.id = Standard.mustEnd → parse grammar (depth + 1) r input memory =
      some (if input = [] then ⟨input, .ok .nil⟩
        else ⟨input, .error (.mk 0 (.unmatched (.pattern Standard.endOfInput)) [])⟩, memory)) ∧
    (grammar r.id = Standard.hasMore → parse grammar (depth + 1) r input memory =
      some (⟨input, .ok (.bool (decide (input ≠ [])))⟩, memory)) ∧
    (grammar r.id = Standard.isEnd → parse grammar (depth + 1) r input memory =
      some (⟨input, .ok (.bool (decide (input = [])))⟩, memory)) ∧
    (∀ {run : Runner M} {frame frame' : Frame} {p : Pattern} {memory' : M},
      (∀ answer, session run (.ahead p) frame memory = some (.ok answer, frame', memory') ↔
        frame' = frame.advance frame.remaining ∧
          ∃ after, session run (.pattern p) frame memory = some (.ok answer, after, memory')) ∧
      ∀ reply, session run (.ahead p) frame memory = some (reply, frame', memory') →
        frame'.remaining = frame.remaining) ∧
    ∀ {looking : Rule},
      Interspersed (session (parse grammar (depth + 1))) (Looks grammar) (grammar r.id)
        (.start input) memory (grammar looking.id) →
      ∃ k, parse grammar (depth + 2) looking input memory =
          (parse grammar (depth + 2) r input memory).map (Prod.map (Result.shift k) id) ∧
        ∀ {log : List (Exchange Frame M)} {outcome : Outcome} {frame : Frame} {memory' : M},
          Course (session (parse grammar (depth + 1))) (grammar r.id) (.start input) memory log
            (.done outcome) frame memory' →
          ∃ log', Course (session (parse grammar (depth + 1))) (grammar looking.id)
              (.start input) memory log' (.done outcome) (frame.shift k) memory' ∧
            Spread (Looks grammar) log log' := by
  refine ⟨fun hbody => parse_mustEnd hbody depth input memory,
    fun hbody => parse_hasMore hbody depth input memory,
    fun hbody => parse_isEnd hbody depth input memory,
    fun {run frame frame' p memory'} =>
      ⟨fun answer => ahead_answered_iff, fun reply => remaining_of_ahead⟩, ?_⟩
  intro looking hlooks
  obtain ⟨k, hrun, hlog⟩ := alongside (fun h => Looks.unseen h depth) hlooks 0
  rw [Frame.shift_zero, Nat.zero_add] at hrun
  refine ⟨k, ?_, fun course => ?_⟩
  · rw [parse_succ, parse_succ, hrun]
    exact map_finish_shift k _
  · simpa using hlog course

/-- A letter and a line feed, of which a rule takes the letter and then asks for what is not there.
Another asks first whether there is more and looks ahead for the letter, and then asks whether that
was all, which it was not: it fails for the same reason three steps later. -/
theorem looks_unseen_letter :
    let letter : Pattern :=
      ⟨⟨"^é", .seq (.look .startText) (.chars (.singleton 'é')), 0, []⟩, false, false⟩
    let taking : Rule := ⟨3, "taking"⟩
    let looking : Rule := ⟨4, "looking"⟩
    let grammar : Grammar Unit := fun
      | 0 => Standard.mustEnd
      | 1 => Standard.hasMore
      | 2 => Standard.isEnd
      | 3 => Standard.sequence [.literal "é", .literal "x"]
      | _ => do
          let _ ← Body.ask (.rule ⟨1, "has_more"⟩)
          let _ ← Body.ask (.ahead letter)
          match ← Body.ask (.literal "é") with
          | .ok _ => do
              let _ ← Body.ask (.rule ⟨2, "is_end"⟩)
              Standard.sequence [.literal "x"]
          | .error halt => return .error halt
    let failure (step : Nat) : Failure := .mk step (.unmatched (.literal "x")) []
    parse grammar 1 ⟨0, "must_end"⟩ ['\n'] () =
        some (⟨['\n'], .error (.mk 0 (.unmatched (.pattern Standard.endOfInput)) [])⟩, ()) ∧
      parse grammar 1 ⟨1, "has_more"⟩ ['\n'] () = some (⟨['\n'], .ok (.bool true)⟩, ()) ∧
      parse grammar 1 ⟨2, "is_end"⟩ ['\n'] () = some (⟨['\n'], .ok (.bool false)⟩, ()) ∧
      Interspersed (session (parse grammar 1)) (Looks grammar) (grammar taking.id)
        (.start ['é', '\n']) () (grammar looking.id) ∧
      parse grammar 2 taking ['é', '\n'] () = some (⟨['\n'], .error (failure 1)⟩, ()) ∧
      ∃ k, parse grammar 2 looking ['é', '\n'] () =
        some (⟨['\n'], .error (failure (1 + k))⟩, ()) := by
  intro letter taking looking grammar failure
  have hletter : (letter.matchFront? ['é', '\n']).isSome = true := by decide +kernel
  have hlooks : Interspersed (session (parse grammar 1)) (Looks grammar) (grammar taking.id)
      (.start ['é', '\n']) () (grammar looking.id) := by
    refine .added (.hasMore rfl) fun _ _ _ _ => .added (.ahead hletter) fun _ _ _ _ => ?_
    refine .request fun reply frame memory _ => ?_
    cases reply with
    | error halt => exact .done
    | ok answer => exact .added (.isEnd rfl) fun _ _ _ _ => .refl _ frame memory
  have htaking : parse grammar 2 taking ['é', '\n'] () =
      some (⟨['\n'], .error (failure 1)⟩, ()) := rfl
  obtain ⟨hend, _⟩ := @looks_unseen Unit grammar ⟨0, "must_end"⟩ 0 ['\n'] ()
  obtain ⟨_, hmore, _⟩ := @looks_unseen Unit grammar ⟨1, "has_more"⟩ 0 ['\n'] ()
  obtain ⟨_, _, hall, _⟩ := @looks_unseen Unit grammar ⟨2, "is_end"⟩ 0 ['\n'] ()
  obtain ⟨_, _, _, _, hunseen⟩ := @looks_unseen Unit grammar taking 0 ['é', '\n'] ()
  obtain ⟨k, hlooking, _⟩ := @hunseen looking hlooks
  refine ⟨hend rfl, hmore rfl, hall rfl, hlooks, htaking, k, ?_⟩
  rw [hlooking, htaking]
  rfl

end Forward

end TwoWay
