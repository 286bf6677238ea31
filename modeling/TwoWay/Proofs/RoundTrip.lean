import TwoWay.Proofs.Backward.Resolution
import TwoWay.Proofs.Forward.OrderedChoice
import TwoWay.Proofs.Regex.Span

/-!
When the text of an inversion is read back as its needle. A run over that text has to
go the way of the inversion: each request that was answered on this way must now, over
what is left of the text, be decided by a candidate that takes what was put out for it
and answers alike, and the alternatives that failed on the way must fail again.

The bodies on the way must be blind to slots: they may hand a slot on, but may not ask
whether it is one. Then they come to the same value in a run as in the inversion, but
for the texts in the places of the slots. A frame below which the needle was met must
pass the value on that it gets from there.

None of this is looked at when the inversion is made. A pattern is asked about its own
text alone, and over the joined text it may take more.
-/

namespace TwoWay

variable {M : Type}

namespace Value

/-- The value with the text of each slot in the slot's place. -/
def fill (textOf : Handle → String) : Value → Value
  | .nil => .nil
  | .number n => .number n
  | .string s => .string s
  | .bool b => .bool b
  | .list items => .list (fillItems items)
  | .map bindings => .map (fillFields bindings)
  | .slot handle => .string (textOf handle)
where
  fillItems : List Value → List Value
    | [] => []
    | v :: rest => fill textOf v :: fillItems rest
  fillFields : List (String × Value) → List (String × Value)
    | [] => []
    | (k, v) :: rest => (k, fill textOf v) :: fillFields rest

theorem fillFields_eq_map (textOf : Handle → String) (bindings : List (String × Value)) :
    fill.fillFields textOf bindings = bindings.map fun b => (b.1, b.2.fill textOf) := by
  induction bindings with
  | nil => rfl
  | cons b rest ih => simp only [fill.fillFields, List.map_cons, ih]

theorem lookup_fillFields (textOf : Handle → String) (bindings : List (String × Value))
    (key : String) :
    (fill.fillFields textOf bindings).lookup key =
      (bindings.lookup key).map (fill textOf) := by
  induction bindings with
  | nil => rfl
  | cons b rest ih =>
      obtain ⟨k, v⟩ := b
      simp only [fill.fillFields, List.lookup_cons, ih]
      cases key == k <;> rfl

theorem fill_record (textOf : Handle → String) (entries : List (String × Value)) :
    (record entries).fill textOf = record (entries.map fun e => (e.1, e.2.fill textOf)) := by
  simp only [record, fill, fillFields_eq_map, Bindings.ofEntries, ← List.map_reverse,
    Bindings.normal_map]

end Value

/-- Whether an answer that a node gets over a text may stand for one that it gets in an
inversion. A pattern that takes nothing answers an inversion with the empty match,
whatever it will match. -/
inductive Answer.Stands (textOf : Handle → String) (node : Node) : Answer → Answer → Prop where
  | literal {text : String} : Stands textOf node (.literal text) (.literal text)
  | pattern {found matched : Pattern.Match} :
      matched.text = found.text.fill textOf →
      Stands textOf node (.pattern found) (.pattern matched)
  | ahead {p : Pattern} {matched : Pattern.Match} :
      .pattern p ∈ node.candidates → p.zeroWidth = true →
      Stands textOf node (.pattern .empty) (.pattern matched)
  | rule {value : Value} : Stands textOf node (.rule value) (.rule (value.fill textOf))

theorem Answer.Stands.value_eq {textOf : Handle → String} {node : Node}
    {answer answer' : Answer} (h : answer.Stands textOf node answer')
    (hconsuming : ∀ p, .pattern p ∈ node.candidates → p.zeroWidth = false) :
    answer'.value = answer.value.fill textOf := by
  cases h with
  | literal => rfl
  | pattern htext => exact htext
  | ahead hmem hzero =>
      rw [hconsuming _ hmem] at hzero
      cases hzero
  | rule => rfl

namespace Body

/-- Whether the second body does over texts what the first does over slots. -/
inductive Follows (textOf : Handle → String) : Body M Outcome → Body M Outcome → Prop where
  | ok {value : Value} :
      Follows textOf (.done (.ok value)) (.done (.ok (value.fill textOf)))
  | error {halt : Halt} : Follows textOf (.done (.error halt)) (.done (.error halt))
  | request {node : Node} {next next' : Reply → Body M Outcome} :
      (∀ answer answer', answer.Stands textOf node answer' →
        Follows textOf (next (.ok answer)) (next' (.ok answer'))) →
      Follows textOf (.request node next) (.request node next')

theorem Follows.of_eq {textOf : Handle → String} {value value' : Value}
    (heq : value' = value.fill textOf) :
    Follows (M := M) textOf (.done (.ok value)) (.done (.ok value')) := by
  rw [heq]
  exact .ok

/-- Whether a body does the same over slots as over their texts, whatever these are. -/
def Blind (body : Body M Outcome) : Prop := ∀ textOf, Follows textOf body body

end Body

namespace Backward

open Body (Course Exchange Follows)

namespace Draft

def textOf (d : Draft) (handle : Handle) : String :=
  ((d.slots[handle.index]?).bind fun slot => d.components[slot.component]?).getD ""

/-- What follows in the text of a settled draft after all that an earlier one had put
out. -/
def after (settled earlier : Draft) : List Char :=
  (String.join (settled.components.drop earlier.components.length)).toList

theorem after_empty (settled : Draft) :
    settled.after .empty = (String.join settled.components).toList := rfl

theorem after_settled {left settled : Draft} {needle : Needle} {value : Value}
    (hsettle : left.settle? needle value = some settled) : settled.after left = [] := by
  obtain ⟨_, writes, _, _, _, rfl⟩ := settle?_eq_some.1 hsettle
  have hlength : left.components.length = (left.write writes).components.length :=
    (length_write left writes).symm
  simp [after, hlength]

end Draft

/-- Whether a request of an inversion, asked again over what follows in the settled
text, takes the text that was put out for it and is answered alike. -/
def Retaken (grammar : Grammar M) (memory : M) (settled : Draft) (e : Exchange Frame M) : Prop :=
  ∃ answer answer' pre c, e.reply = .ok answer ∧ answer.Stands settled.textOf e.node answer' ∧
    Forward.Decides grammar (settled.after e.before.draft) memory e.node.candidates pre c answer'
      (settled.after e.after.draft)

/-- The way of an inversion from a rule down to the frame that settles the draft, such
that a run over the settled text goes the same way. -/
inductive Retraced (grammar : Grammar M) (needle : Needle) (settled : Draft) (memory : M) :
    Nat → Rule → Draft → Prop where
  | settles {d : Nat} {q : Rule} {start left : Draft} {log : List (Exchange Frame M)}
      {bindings : List (String × Value)} :
      (grammar q.id).Blind →
      Course (session (synthesize grammar needle d)) (grammar q.id) ⟨start, false⟩ memory log
        (.done (.ok (.map bindings))) ⟨left, false⟩ memory →
      left.resolved = false →
      left.settle? needle (.map bindings) = some settled →
      Agree needle bindings →
      (∀ e ∈ log, Retaken grammar memory settled e) →
      Retraced grammar needle settled memory (d + 1) q start
  | passes {d : Nat} {q q' : Rule} {start : Draft} {log : List (Exchange Frame M)} {node : Node}
      {next : Reply → Body M Outcome} {frame : Frame} {pre post : List Candidate} :
      (grammar q.id).Blind →
      Course (session (synthesize grammar needle d)) (grammar q.id) ⟨start, false⟩ memory log
        (.request node next) frame memory →
      frame.draft.resolved = false → frame.halted = false →
      node.candidates = pre ++ .rule q' :: post →
      Passed (synthesize grammar needle d) pre frame.draft memory frame.draft memory →
      (∀ e ∈ log, Retaken grammar memory settled e) →
      (∀ b ∈ pre, Forward.Fails grammar (settled.after frame.draft) memory b) →
      (∀ value, next (.ok (.rule value)) = .done (.ok value)) →
      Retraced grammar needle settled memory d q' frame.draft →
      Retraced grammar needle settled memory (d + 1) q start

section Retraced

variable {grammar : Grammar M} {needle : Needle} {settled : Draft} {memory : M}

theorem Retraced.complete {d : Nat} {q : Rule} {start draft' : Draft} {ending : Ending}
    {memory' : M} (h : Retraced grammar needle settled memory d q start)
    (hrun : synthesize grammar needle d q start memory = some (ending, draft', memory')) :
    ending = .complete ∧ draft' = settled := by
  induction h generalizing ending draft' memory' with
  | @settles d q start left log bindings _ course hlive hsettle _ _ =>
      rw [synthesize_of_done course, finish_of_settle hlive hsettle] at hrun
      simp only [Option.some.injEq, Prod.mk.injEq] at hrun
      exact ⟨hrun.1.symm, hrun.2.1.symm⟩
  | @passes d q q' start log node next frame pre post _ course hlive hrunning hnode hpre _ _ _
      hbelow ih =>
      obtain ⟨_, hreply⟩ := session_of_ended hrun course
      obtain ⟨⟨ending', draft₁, memory₁⟩, hrule⟩ :=
        ended_of_session hlive hrunning hnode hpre hreply
      obtain ⟨rfl, rfl⟩ := ih hrule
      have hmet : draft₁.resolved = true := synthesize_atomic grammar needle d hlive hrule
      exact complete_of_nested hrun course hlive hrunning hnode hpre hrule hmet

/-- By induction on the course: each request is answered alike, and what then follows of
the body in the run follows what is left of it in the inversion. -/
theorem run_of_follows (honly : ∀ id, (grammar id).SessionOnly) {run : Runner M}
    {body body' body₁ : Body M Outcome} {frame frame₁ : Frame} {memory₁ memory₂ : M}
    {log : List (Exchange Frame M)}
    (course : Course (session run) body frame memory₁ log body₁ frame₁ memory₂)
    (hfollows : Follows settled.textOf body body')
    (hretaken : ∀ e ∈ log, Retaken grammar memory settled e) (step : Nat) :
    ∃ body₁' step' depth, Follows settled.textOf body₁ body₁' ∧ ∀ larger, depth ≤ larger →
      body'.run (Forward.session (Forward.parse grammar larger))
          ⟨settled.after frame.draft, step, none⟩ memory =
        body₁'.run (Forward.session (Forward.parse grammar larger))
          ⟨settled.after frame₁.draft, step', none⟩ memory := by
  induction course generalizing body' step with
  | here => exact ⟨body', step, 0, hfollows, fun _ _ => rfl⟩
  | @request node next frame frame₂ frame₁ memory₁ memory₃ memory₂ reply log body₁ hreply _ ih =>
      obtain ⟨hfirst, hrest⟩ := List.forall_mem_cons.1 hretaken
      obtain ⟨answer, answer', pre, c, hanswer, hstands, hdecides⟩ := hfirst
      obtain rfl : reply = .ok answer := hanswer
      cases hfollows with
      | @request _ _ next' hnext =>
          obtain ⟨body₁', step', depth, hfollows', hrun⟩ :=
            ih (hnext answer answer' hstands) hrest (step + 1)
          have hreplies : Forward.Replies grammar node ⟨settled.after frame.draft, step, none⟩
              memory (.ok answer') ⟨settled.after frame₂.draft, step + 1, none⟩ memory :=
            (Forward.replies_ok_iff honly rfl).2 ⟨pre, c, _, hdecides, rfl, rfl⟩
          obtain ⟨depth', hsession⟩ := hreplies
          -- A depth that is enough for this reply and for what follows it.
          refine ⟨body₁', step', max depth depth', hfollows', fun larger hle => ?_⟩
          have hsession' := Forward.session_within
            (Forward.parse_within (Nat.le_trans (Nat.le_max_right _ _) hle)) hsession
          simp only [Body.run, hsession']
          exact hrun larger (Nat.le_trans (Nat.le_max_left _ _) hle)
  | load _ _ => cases hfollows
  | store _ _ => cases hfollows

/-- A run over what follows in the settled text takes all of it and comes to the value
that settled the draft, with the texts of its slots. -/
theorem Retraced.parse (honly : ∀ id, (grammar id).SessionOnly) {d : Nat} {q : Rule}
    {start : Draft} (hstart : start.Reserved)
    (h : Retraced grammar needle settled memory d q start) :
    ∃ (left : Draft) (bindings : List (String × Value)) (depth : Nat), left.Reserved ∧
      left.settle? needle (.map bindings) = some settled ∧
      Agree needle bindings ∧
      Forward.parse grammar depth q (settled.after start) memory =
        some (⟨[], .ok ((Value.map bindings).fill settled.textOf)⟩, memory) := by
  induction h with
  | @settles d q start left log bindings hblind course hlive hsettle hagree hretaken =>
      obtain ⟨body', step, depth, hfollows, hrun⟩ :=
        run_of_follows honly course (hblind settled.textOf) hretaken 0
      have hreserved : left.Reserved := hstart.grows (course_grows course hlive)
      refine ⟨left, bindings, depth + 1, hreserved, hsettle, hagree, ?_⟩
      cases hfollows with
      | ok =>
          rw [Forward.parse_succ, Forward.Frame.start, hrun depth (Nat.le_refl depth),
            Draft.after_settled hsettle]
          rfl
  | @passes d q q' start log node next frame pre post hblind course hlive hrunning hnode _
      hretaken hfails hpasses _ ih =>
      have hframe : frame.draft.Reserved := hstart.grows (course_grows course hlive)
      obtain ⟨left, bindings, depth, hreserved, hsettle, hagree, hparse⟩ := ih hframe
      obtain ⟨body', step, depth', hfollows, hrun⟩ :=
        run_of_follows honly course (hblind settled.textOf) hretaken 0
      cases hfollows with
      | @request _ _ next' hnext =>
          have hdecides : Forward.Decides grammar (settled.after frame.draft) memory
              node.candidates pre (.rule q')
              (.rule ((Value.map bindings).fill settled.textOf)) [] :=
            ⟨⟨post, hnode⟩, hfails, .rule hparse⟩
          have hreplies : Forward.Replies grammar node ⟨settled.after frame.draft, step, none⟩
              memory (.ok (.rule ((Value.map bindings).fill settled.textOf)))
              ⟨[], step + 1, none⟩ memory :=
            (Forward.replies_ok_iff honly rfl).2 ⟨pre, _, _, hdecides, rfl, rfl⟩
          obtain ⟨depth₁, hsession⟩ := hreplies
          -- The body hands the value on unseen, so it does the same with the value filled in.
          have hpassed := hnext (.rule (.map bindings)) _ .rule
          rw [hpasses] at hpassed
          generalize hlast : next' (.ok (.rule ((Value.map bindings).fill settled.textOf))) =
            last at hpassed
          cases hpassed with
          | ok =>
              refine ⟨left, bindings, max depth' depth₁ + 1, hreserved, hsettle, hagree, ?_⟩
              have hsession' := Forward.session_within
                (Forward.parse_within (Nat.le_max_right depth' depth₁)) hsession
              rw [Forward.parse_succ, Forward.Frame.start, hrun _ (Nat.le_max_left depth' depth₁)]
              simp only [Body.run, hsession', hlast]
              rfl

end Retraced

theorem Fills.filled_beq {left settled : Draft} {needle : Needle}
    {bindings : List (String × Value)} (hfills : Fills left needle bindings settled.components)
    (hagree : Agree needle bindings) (hslots : settled.slots = left.slots)
    (hstrings : ∀ field ∈ needle.fields, ∃ text, field.2 = .string text) :
    ((Value.map bindings).fill settled.textOf == needle.value) = true := by
  have hlength : (Bindings.normal (Value.fill.fillFields settled.textOf bindings)).length =
      needle.fields.length := by
    have hkeys := congrArg List.length hfills.keys
    rw [Value.fillFields_eq_map, Bindings.normal_map, List.length_map]
    simpa [Bindings.keys, Needle.keys] using hkeys
  refine Value.map_beq_of_lookup needle.ordered hlength ?_
  intro field hfield
  obtain ⟨text, htext⟩ := hstrings field hfield
  rw [Value.lookup_fillFields, htext]
  rcases hfills.fields field hfield with ⟨actual, hactual, _, hequal⟩ |
    ⟨handle, slot, _, hnames, hslot, _⟩
  · rw [htext, Value.beq_string] at hequal
    subst hequal
    exact ⟨.string text, by rw [hactual]; rfl, Value.beq_string.2 rfl⟩
  · have hshows : settled.components[slot.component]? = field.2.needleText? :=
      hfills.shows_iff.2 hagree field hfield handle slot hnames hslot
    have htextOf : settled.textOf handle = text := by
      rw [Draft.textOf, hslots, hslot, Option.bind_some, hshows, htext]
      rfl
    refine ⟨.string text, ?_, Value.beq_string.2 rfl⟩
    rw [hnames, Option.map_some, Value.fill, htextOf]

end Backward

/-- The text of an inversion that a run can retrace is read back as the needle, when the
needle's values are texts: the inversion is complete, if it ends, and at each depth that
is enough for it the run over that text takes all of it and comes to a map with the
needle's keys and values. -/
theorem retraced_inversion_read_back {grammar : Grammar M}
    (honly : ∀ id, (grammar id).SessionOnly) {needle : Needle}
    (hstrings : ∀ field ∈ needle.fields, ∃ text, field.2 = .string text) {depth : Nat} {r : Rule}
    {settled : Backward.Draft} {memory memory' : M} {inversion : Backward.Inversion}
    (hway : Backward.Retraced grammar needle settled memory depth r .empty)
    (hinvert : Backward.invert grammar depth needle r memory = some (inversion, memory')) :
    inversion.text? = some (String.join settled.components) ∧
      ∃ value least, (value == needle.value) = true ∧ ∀ larger other, least ≤ larger →
        Forward.parse grammar larger r (String.join settled.components).toList other =
          some (⟨[], .ok value⟩, other) := by
  constructor
  · obtain ⟨⟨ending, draft, memory₁⟩, hrun, hended⟩ := Option.map_eq_some_iff.1 hinvert
    obtain ⟨rfl, _⟩ := Prod.mk.inj hended
    obtain ⟨rfl, rfl⟩ := hway.complete hrun
    rfl
  · obtain ⟨left, bindings, least, hreserved, hsettle, hagree, hparse⟩ :=
      hway.parse honly Backward.Draft.reserved_empty
    obtain ⟨_, hmap, hfills⟩ := Backward.Draft.settle?_fills hreserved hsettle
    obtain rfl := Value.map.inj hmap
    have hslots : settled.slots = left.slots := by
      obtain ⟨_, writes, _, _, _, rfl⟩ := Backward.Draft.settle?_eq_some.1 hsettle
      rfl
    refine ⟨_, least, hfills.filled_beq hagree hslots hstrings, fun larger other hle => ?_⟩
    rw [Backward.Draft.after_empty] at hparse
    exact Forward.parse_within hle ((Forward.parse_ignores_memory honly least hparse).2 other)

/-- A router that passes on what its second rule comes to, after its first has failed in
both directions. -/
theorem retraced_inversion_read_back_router :
    let digits : Pattern := Standard.anchored "^[0-9]+"
      (.seq (.look .startText) (.repeats 1 none true (.chars (.interval '0' '9'))))
    let home : Rule := ⟨1, "home"⟩
    let album : Rule := ⟨2, "album"⟩
    let grammar : Grammar Unit := fun
      | 0 => do
          match ← Body.ask (.choice [.rule home, .rule album]) with
          | .ok found => return .ok found.value
          | .error halt => return .error halt
      | 1 => do
          match ← Body.ask (.literal "/home") with
          | .ok _ => return .ok (.record [("type", .string "home")])
          | .error halt => return .error halt
      | _ => do
          match ← Body.ask (.literal "/albums/") with
          | .error halt => return .error halt
          | .ok _ =>
              match ← Body.ask (.pattern digits) with
              | .ok found => return .ok (.record
                  [("id", found.value), ("type", .string "album")])
              | .error halt => return .error halt
    let needle : Needle :=
      ⟨[("id", .string "12"), ("type", .string "album")], by decide, by decide, by decide⟩
    let router : Rule := ⟨0, "router"⟩
    Backward.invert grammar 2 needle router () = some (.complete ["/albums/", "12"], ()) ∧
      ∃ value least, (value == needle.value) = true ∧ ∀ larger other, least ≤ larger →
        Forward.parse grammar larger router "/albums/12".toList other =
          some (⟨[], .ok value⟩, other) := by
  intro digits home album grammar needle router
  have honly : ∀ id, (grammar id).SessionOnly
    | 0 => fun reply => by cases reply <;> trivial
    | 1 => fun reply => by cases reply <;> trivial
    | _ + 2 => fun
      | .error _ => trivial
      | .ok _ => fun reply => by cases reply <;> trivial
  have hstrings : ∀ field ∈ needle.fields, ∃ text, field.2 = .string text := by
    simp [needle]
  have hrouter : (grammar 0).Blind := by
    intro textOf
    refine .request fun answer answer' hstands => .of_eq (hstands.value_eq ?_)
    simp [Node.candidates, Node.candidates.ofMembers]
  have halbum : (grammar 2).Blind := by
    intro textOf
    refine .request fun _ _ _ => .request fun answer answer' hstands => .of_eq ?_
    rw [Value.fill_record, hstands.value_eq (by simp [Node.candidates, digits, Standard.anchored])]
    rfl
  let settled : Backward.Draft := ⟨["/albums/", "12"], [⟨1, digits⟩], true⟩
  -- What follows in the text at the start, after the first item, and after both.
  let first : Backward.Draft := ⟨["/albums/"], [], false⟩
  let second : Backward.Draft := ⟨["/albums/", ""], [⟨1, digits⟩], false⟩
  have hstart : settled.after .empty = "/albums/".toList ++ settled.after first := by
    decide +kernel
  have hfirst : settled.after first = ['1', '2'] ++ settled.after second := by decide +kernel
  obtain ⟨found, taken, hfront, htext⟩ : ∃ found taken,
      digits.matchFront? (settled.after first) = some (found, taken) ∧
        found.text = .string "12" :=
    Pattern.matchFront?_of_string (by decide +kernel)
  have hdrop : (settled.after first).drop taken = settled.after second := by
    have hchars : found.chars = ['1', '2'] := by
      simp [Pattern.Match.chars, Pattern.Match.string?, htext, Value.string?]
    rw [hfirst] at hfront ⊢
    exact Pattern.drop_of_matchFront? rfl hfront hchars
  have hsettles : Backward.Retraced grammar needle settled () 1 album .empty := by
    refine .settles halbum (.request rfl (.request rfl .here)) rfl rfl ?_ ?_
    · intro a ha b hb handle hnamesa hnamesb
      have hid (field) (hfield : field ∈ needle.fields)
          (hnames : (Bindings.ofEntries [("id", Value.slot ⟨0⟩), ("type", .string "album")]).lookup
            field.1 = some (.slot handle)) : field = ("id", .string "12") := by
        rcases List.mem_cons.1 hfield with rfl | hlast
        · rfl
        · obtain rfl := List.mem_singleton.1 hlast
          cases hnames
      rw [hid a ha hnamesa, hid b hb hnamesb]
    · refine List.forall_mem_cons.2 ⟨?_, List.forall_mem_singleton.2 ?_⟩
      · exact ⟨_, .literal "/albums/", [], .literal "/albums/", rfl, .literal,
          ⟨[], rfl⟩, by simp, .literal hstart⟩
      · have hmatches : Forward.Matches grammar (settled.after first) () (.pattern digits)
            (.pattern found) (settled.after second) := by
          rw [← hdrop]
          exact .pattern hfront
        exact ⟨_, .pattern found, [], .pattern digits, rfl, .pattern htext, ⟨[], rfl⟩, by simp,
          hmatches⟩
  have hway : Backward.Retraced grammar needle settled () 2 router .empty := by
    have hnode : (Node.choice [.rule home, .rule album]).candidates =
        [.rule home] ++ .rule album :: [] := rfl
    refine .passes hrouter .here rfl rfl hnode (.cons rfl .nil) ?_ ?_ ?_ hsettles
    · simp
    · refine List.forall_mem_singleton.2 ?_
      have hhome : (Forward.parse grammar 1 home (settled.after .empty) ()).map
          (fun ended => ended.1.isSuccess) = some false := by decide +kernel
      obtain ⟨⟨⟨rest, outcome⟩, _⟩, hparse, hfailed⟩ := Option.map_eq_some_iff.1 hhome
      cases outcome with
      | ok value => cases hfailed
      | error failure => exact .rule hparse
    · exact fun value => rfl
  have hinvert : Backward.invert grammar 2 needle router () =
      some (.complete ["/albums/", "12"], ()) := by decide +kernel
  obtain ⟨_, hread⟩ := retraced_inversion_read_back honly hstrings hway hinvert
  exact ⟨hinvert, hread⟩

/-- Two patterns side by side, the value of each a field. Each accepts its own text, but
over the joined text the first takes both and the second finds nothing. -/
theorem inversion_lost_between_neighbours :
    let letters : Pattern := Standard.anchored "^[a-z]+"
      (.seq (.look .startText) (.repeats 1 none true (.chars (.interval 'a' 'z'))))
    let grammar : Grammar Unit := fun _ => do
      match ← Body.ask (.pattern letters) with
      | .error halt => return .error halt
      | .ok first =>
          match ← Body.ask (.pattern letters) with
          | .error halt => return .error halt
          | .ok second => return .ok (.record [("x", first.value), ("y", second.value)])
    let needle : Needle :=
      ⟨[("x", .string "a"), ("y", .string "b")], by decide, by decide, by decide⟩
    let r : Rule := ⟨0, "neighbours"⟩
    (∀ id, (grammar id).SessionOnly) ∧ (∀ id, (grammar id).Blind) ∧
      Backward.invert grammar 1 needle r () = some (.complete ["a", "b"], ()) ∧
      (Forward.parse grammar 1 r "ab".toList ()).map
        (fun (result, _) => (result.remaining, result.isSuccess)) = some ([], false) := by
  intro letters grammar needle r
  have honly (id) : (grammar id).SessionOnly
    | .error _ => trivial
    | .ok _ => fun reply => by cases reply <;> trivial
  have hletters : ∀ p, .pattern p ∈ (Node.pattern letters).candidates → p.zeroWidth = false := by
    simp [Node.candidates, letters, Standard.anchored]
  have hblind (id) : (grammar id).Blind := by
    intro textOf
    refine .request fun first first' hfirst => .request fun second second' hsecond => .of_eq ?_
    rw [Value.fill_record, hfirst.value_eq hletters, hsecond.value_eq hletters]
    rfl
  exact ⟨honly, hblind, by decide +kernel, by decide +kernel⟩

end TwoWay
