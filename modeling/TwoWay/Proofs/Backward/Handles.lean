import TwoWay.Proofs.Backward.Provenance
import TwoWay.Proofs.Backward.Unification

/-!
Which slot a handle stands for. A handle is a place in the table of slots, and the table is
cut back when a rule fails. At each moment of an inversion the table lists the patterns among
the answers that stand: those that were given so far in the frame and in the frames around it
and within the rules that were tried for them, but for the rules that failed. A handle stands
for the slot of the standing answer that gave it.

So a handle that was given within a rule that failed stands for nothing when the rule is
left, and a value that takes a field from it does not meet the needle. But the next pattern
that takes input is given its place again. Bodies that share nothing but their sessions never
come to hold it; a body that kept it elsewhere then has the handle of another slot.
-/

namespace TwoWay.Backward

open Body (Course Exchange)

variable {M : Type}

/-- Of some answers with which something was put out, the one at a place is that of a pattern
that was answered with the handle. -/
def Denotes (entries : List Given) (handle : Handle) (i : Nat) (p : Pattern) : Prop :=
  entries[i]? = some ⟨.pattern p, .pattern (.placeholder handle)⟩

/-- The answers that stand at the moments of an inversion. It begins with none; a frame
begins with those of the moment at which its rule is tried, and goes on with those that last
of its own exchanges. -/
inductive StandsAt (grammar : Grammar M) (needle : Needle) (depth : Nat) (r : Rule)
    (memory : M) : Nat → Body M Outcome → Frame → M → List Given → Prop where
  | start : StandsAt grammar needle depth r memory depth (grammar r.id) ⟨.empty, false⟩ memory []
  | inner {d : Nat} {node : Node} {next : Reply → Body M Outcome} {frame : Frame}
      {pre post : List Candidate} {q : Rule} {draft : Draft} {memory₁ memory₂ : M}
      {given : List Given} :
      StandsAt grammar needle depth r memory (d + 1) (.request node next) frame memory₁ given →
      frame.draft.resolved = false → frame.halted = false →
      node.candidates = pre ++ .rule q :: post →
      Passed (synthesize grammar needle (d + 1)) pre frame.draft memory₁ draft memory₂ →
      StandsAt grammar needle depth r memory d (grammar q.id) ⟨draft, false⟩ memory₂ given
  | later {d : Nat} {body body' : Body M Outcome} {frame frame' : Frame} {memory₁ memory₂ : M}
      {log : List (Exchange Frame M)} {given further : List Given} :
      StandsAt grammar needle depth r memory d body frame memory₁ given →
      Course (session (synthesize grammar needle d)) body frame memory₁ log body' frame' memory₂ →
      Lasting grammar needle d log further →
      StandsAt grammar needle depth r memory d body' frame' memory₂ (given ++ further)

section Moments

variable {grammar : Grammar M} {needle : Needle} {depth d : Nat} {r q : Rule} {memory memory₁ : M}
  {body : Body M Outcome} {frame : Frame} {given : List Given}

theorem StandsAt.opens (h : StandsAt grammar needle depth r memory d body frame memory₁ given) :
    ∃ q start memory₂ log,
      Opens grammar needle (depth + 1) r .empty memory (d + 1) q start memory₂ ∧
      Course (session (synthesize grammar needle d)) (grammar q.id) ⟨start, false⟩ memory₂ log body
        frame memory₁ := by
  induction h with
  | start => exact ⟨r, .empty, memory, [], .own, .here⟩
  | inner _ hopen hlive hnode hpre ih =>
      obtain ⟨_, _, _, _, opens, course⟩ := ih
      exact ⟨_, _, _, [], opens.nested course hopen hlive hnode hpre, .here⟩
  | later _ hcourse _ ih =>
      obtain ⟨q, start, memory₂, log, opens, course⟩ := ih
      exact ⟨q, start, memory₂, _, opens, course.trans hcourse⟩

theorem StandsAt.exists_later
    (h : StandsAt grammar needle depth r memory d body frame memory₁ given)
    {log : List (Exchange Frame M)} {body' : Body M Outcome} {frame' : Frame} {memory₂ : M}
    (course : Course (session (synthesize grammar needle d)) body frame memory₁ log body' frame'
      memory₂) :
    ∃ given', StandsAt grammar needle depth r memory d body' frame' memory₂ given' := by
  obtain ⟨further, hfurther⟩ := allLasting grammar needle d course
  exact ⟨_, h.later course hfurther⟩

theorem Opens.exists_standsAt {deep : Nat} {start : Draft}
    (opens : Opens grammar needle (depth + 1) r .empty memory deep q start memory₁)
    (hdeep : deep = d + 1) :
    ∃ given, StandsAt grammar needle depth r memory d (grammar q.id) ⟨start, false⟩ memory₁
      given := by
  induction opens generalizing d with
  | own =>
      obtain rfl := Nat.succ.inj hdeep
      exact ⟨[], .start⟩
  | nested _ course hopen hlive hnode hpre ih =>
      obtain rfl := hdeep
      obtain ⟨given, hgiven⟩ := ih rfl
      obtain ⟨given', hrequest⟩ := hgiven.exists_later course
      exact ⟨given', hrequest.inner hopen hlive hnode hpre⟩

theorem StandsAt.lists (h : StandsAt grammar needle depth r memory d body frame memory₁ given)
    (hopen : frame.draft.resolved = false) : frame.draft.Lists (given.filter Given.isEntry) := by
  induction h with
  | start => exact Draft.Lists.empty
  | inner _ hlive _ _ hpre ih =>
      obtain rfl := hpre.draft_eq (synthesize_atomic grammar needle _) hlive
      exact ih hlive
  | @later d body body' frame frame' memory₁ memory₂ log given further hbefore hcourse hlasting
      ih =>
      obtain ⟨q, start, memory₃, log', opens, course⟩ := hbefore.opens
      have hfirst : frame.draft.resolved = false := by
        cases hresolved : frame.draft.resolved with
        | false => rfl
        | true =>
            rw [frame_eq_of_over hcourse (Or.inl hresolved), hresolved] at hopen
            cases hopen
      have haccounts := accounts_of_lasting hlasting opens course hcourse hfirst (ih hfirst)
      rw [List.filter_append]
      exact haccounts.lists hopen

end Moments

namespace Draft.Lists

variable {d settled : Draft} {entries : List Given} {needle : Needle}
  {bindings : List (String × Value)}

theorem slot_iff (h : d.Lists entries) {handle : Handle} {i : Nat} {p : Pattern} :
    d.slots[handle.index]? = some ⟨i, p⟩ ↔ Denotes entries handle i p :=
  ⟨h.slots handle.index ⟨i, p⟩, h.patterns i p handle⟩

/-- A handle that meets a field denotes a slot, which accepts the text of the field and is
filled with that of a field with this handle. -/
theorem filled (h : d.Lists entries) (hfills : Fills d needle bindings settled.components)
    {field : String × Value} (hfield : field ∈ needle.fields) {handle : Handle}
    (hcarries : bindings.lookup field.1 = some (.slot handle)) :
    ∃ i p, Denotes entries handle i p ∧ p.accepts field.2.text.toList = true ∧
      ∃ shown ∈ needle.fields, bindings.lookup shown.1 = some (.slot handle) ∧
        settled.components[i]? = shown.2.needleText? := by
  rcases hfills.fields field hfield with ⟨actual, hactual, hplain, _⟩ |
    ⟨handle', slot, text, hslot', hslot, htext, haccepts, hshown⟩
  · obtain rfl := Option.some.inj (hactual.symm.trans hcarries)
    cases hplain
  · obtain rfl : handle' = handle := by simpa [hcarries] using hslot'.symm
    obtain ⟨_, rfl⟩ := (Value.needleText?_eq_some (needle.primitive field hfield)).1 htext
    exact ⟨slot.component, slot.pattern, h.slot_iff.1 hslot, haccepts, hshown⟩

end Draft.Lists

theorem Draft.settle?_of_beyond {d : Draft} {needle : Needle} {bindings : List (String × Value)}
    {field : String × Value} {handle : Handle} (hbeyond : d.slots.length ≤ handle.index)
    (hfield : field ∈ needle.fields) (hcarries : bindings.lookup field.1 = some (.slot handle)) :
    d.settle? needle (.map bindings) = none := by
  cases hsettle : d.settle? needle (.map bindings) with
  | none => rfl
  | some settled =>
      obtain ⟨_, writes, hvalue, _, hwrites, _⟩ := Draft.settle?_eq_some.1 hsettle
      obtain rfl := Value.map.inj hvalue
      obtain ⟨actual, part, hget, hpart, _⟩ := (Draft.writesFor?_fields hwrites).1 field hfield
      obtain rfl := Option.some.inj (hcarries.symm.trans hget)
      obtain ⟨slot, _, hslot, _⟩ := Draft.writesForField?_slot.1 hpart
      rw [List.getElem?_eq_none hbeyond] at hslot
      cases hslot

def HandsOut (reply : Reply) (handle : Handle) : Prop :=
  ∃ found, reply = .ok (.pattern found) ∧ found.text = .slot handle

/-- Whether the body takes the handles for the fields of its value from those that are handed
out to it and from those that are `held` already, and not from anywhere else. -/
def CarriesOwn : Body M Outcome → (held : Handle → Prop) → Prop
  | .done outcome, held => ∀ bindings, outcome = .ok (.map bindings) →
      ∀ key handle, bindings.lookup key = some (.slot handle) → held handle
  | .request _ next, held => ∀ reply,
      CarriesOwn (next reply) fun handle => held handle ∨ HandsOut reply handle
  | .load next, held => ∀ memory, CarriesOwn (next memory) held
  | .store _ next, held => CarriesOwn next held
  | .stuck, _ => True

theorem CarriesOwn.course {session : Session Frame M} {body body' : Body M Outcome}
    {held : Handle → Prop} {frame frame' : Frame} {memory memory' : M}
    {log : List (Exchange Frame M)} (hown : CarriesOwn body held)
    (course : Course session body frame memory log body' frame' memory') :
    CarriesOwn body' fun handle => held handle ∨ ∃ x ∈ log, HandsOut x.reply handle := by
  induction course generalizing held with
  | here => simpa using hown
  | request _ _ ih => simpa [or_assoc] using ih (hown _)
  | load _ ih => exact ih (hown _)
  | store _ ih => exact ih hown

section Walk

variable {grammar : Grammar M} {needle : Needle} {depth d : Nat} {q q' : Rule}
  {start start' draft' : Draft} {memory memory' memory₁ memory₂ memory₃ : M}
  {log : List (Exchange Frame M)} {node : Node} {body body' : Body M Outcome}
  {frame frame' : Frame} {reply : Reply} {handle : Handle}

theorem slot_of_handed
    (course : Course (session (synthesize grammar needle d)) body frame memory log body' frame'
      memory')
    {x : Exchange Frame M} (hx : x ∈ log) (hhands : HandsOut x.reply handle) :
    ∃ p, .pattern p ∈ x.node.candidates ∧ p.zeroWidth = false ∧
      frame'.draft.slots[handle.index]? = some ⟨x.before.draft.components.length, p⟩ := by
  induction course with
  | here => cases hx
  | request hreply hrest ih =>
      rcases List.mem_cons.1 hx with rfl | hx
      · obtain ⟨found, rfl, hhandle⟩ := hhands
        obtain ⟨p, hmem, htakes, _, hslot⟩ := slot_of_answer hreply hhandle
        obtain ⟨added, hadded⟩ := course_keeps_slots hrest
        refine ⟨p, hmem, htakes, ?_⟩
        rw [← hadded]
        exact getElem?_append_of_eq_some hslot added
      · exact ih hx
  | load _ ih => exact ih hx
  | store _ ih => exact ih hx

/-- The table does not reach, after a rule has failed, the handles that were handed out within
it. -/
theorem handle_of_failed (hstart : start.resolved = false)
    (hfailed : synthesize grammar needle depth q start memory = some (.failed, draft', memory'))
    (opens : Opens grammar needle depth q start memory (d + 1) q' start' memory₁)
    (course : Course (session (synthesize grammar needle d)) (grammar q'.id) ⟨start', false⟩
      memory₁ log body frame memory₂)
    (hreply : session (synthesize grammar needle d) node frame memory₂ =
      some (reply, frame', memory₃))
    (hhands : HandsOut reply handle) : draft'.slots.length ≤ handle.index := by
  obtain ⟨⟨_, hslots, _⟩, hkept⟩ := failed_inversion_restores hstart hfailed
  obtain ⟨_, hprefix, _⟩ := hkept opens course
  obtain ⟨found, rfl, hhandle⟩ := hhands
  obtain ⟨_, _, _, hindex, _⟩ := slot_of_answer hreply hhandle
  rw [hslots, hindex]
  exact hprefix.length_le

end Walk

/-- What handles stand for, whatever the bodies share. As long as the needle is unmet a handle has a
place in the table just when a standing answer gave it, and only such handles meet fields. Those
handed out within a rule that failed meet none until their places are given out again. A handle
that a body takes from the answers to its own requests denotes the slot of that request until the
body ends. -/
theorem handles_denote_standing {grammar : Grammar M} {needle : Needle} :
    (∀ {depth d : Nat} {r q : Rule} {start : Draft} {memory memory₁ memory₂ : M}
        {log : List (Exchange Frame M)} {body : Body M Outcome} {frame : Frame},
      Opens grammar needle (depth + 1) r .empty memory (d + 1) q start memory₁ →
      Course (session (synthesize grammar needle d)) (grammar q.id) ⟨start, false⟩ memory₁ log
        body frame memory₂ →
      ∃ given, StandsAt grammar needle depth r memory d body frame memory₂ given) ∧
    (∀ {depth d : Nat} {r : Rule} {memory memory₁ : M} {body : Body M Outcome} {frame : Frame}
        {given : List Given},
      StandsAt grammar needle depth r memory d body frame memory₁ given →
      frame.draft.resolved = false →
      (∀ handle i p, frame.draft.slots[handle.index]? = some ⟨i, p⟩ ↔
        Denotes (given.filter Given.isEntry) handle i p) ∧
      ∀ bindings settled, frame.draft.settle? needle (.map bindings) = some settled →
        (∀ field ∈ needle.fields, ∀ handle, bindings.lookup field.1 = some (.slot handle) →
          ∃ i p, Denotes (given.filter Given.isEntry) handle i p ∧
            p.accepts field.2.text.toList = true ∧
            ∃ shown ∈ needle.fields, bindings.lookup shown.1 = some (.slot handle) ∧
              settled.components[i]? = shown.2.needleText?) ∧
        ∀ i, (∀ p handle, Denotes (given.filter Given.isEntry) handle i p →
            ∀ field ∈ needle.fields, bindings.lookup field.1 ≠ some (.slot handle)) →
          settled.components[i]? = frame.draft.components[i]?) ∧
    (∀ {depth d : Nat} {q q' : Rule} {start start' draft' : Draft}
        {memory memory' memory₁ memory₂ memory₃ : M} {log : List (Exchange Frame M)}
        {node : Node} {body : Body M Outcome} {frame frame' : Frame} {reply : Reply}
        {handle : Handle},
      start.resolved = false →
      synthesize grammar needle depth q start memory = some (.failed, draft', memory') →
      Opens grammar needle depth q start memory (d + 1) q' start' memory₁ →
      Course (session (synthesize grammar needle d)) (grammar q'.id) ⟨start', false⟩ memory₁ log
        body frame memory₂ →
      session (synthesize grammar needle d) node frame memory₂ = some (reply, frame', memory₃) →
      HandsOut reply handle →
      draft'.slots.length ≤ handle.index ∧
      ∀ (draft : Draft) (bindings : List (String × Value)) (field : String × Value),
        draft.slots.length ≤ handle.index → field ∈ needle.fields →
        bindings.lookup field.1 = some (.slot handle) →
        draft.settle? needle (.map bindings) = none) ∧
    (∀ {d : Nat} {q : Rule} {start : Draft} {memory memory' : M} {log : List (Exchange Frame M)}
        {bindings : List (String × Value)} {frame : Frame},
      CarriesOwn (grammar q.id) (fun _ => False) →
      Course (session (synthesize grammar needle d)) (grammar q.id) ⟨start, false⟩ memory log
        (.done (.ok (.map bindings))) frame memory' →
      ∀ key handle, bindings.lookup key = some (.slot handle) →
        ∃ x ∈ log, HandsOut x.reply handle ∧
          ∃ p, .pattern p ∈ x.node.candidates ∧ p.zeroWidth = false ∧
            frame.draft.slots[handle.index]? = some ⟨x.before.draft.components.length, p⟩) := by
  refine ⟨?_, ?_, ?_, ?_⟩
  · intro depth d r q start memory memory₁ memory₂ log body frame opens course
    obtain ⟨given, hstart⟩ := opens.exists_standsAt rfl
    exact hstart.exists_later course
  · intro depth d r memory memory₁ body frame given hstands hopen
    have hlists := hstands.lists hopen
    obtain ⟨q, start, memory₂, log, opens, course⟩ := hstands.opens
    have hreserved := opens.reserved Draft.reserved_empty course hopen
    refine ⟨fun handle i p => hlists.slot_iff, ?_⟩
    intro bindings settled hsettle
    obtain ⟨_, hvalue, hfills⟩ := Draft.settle?_fills hreserved hsettle
    obtain rfl := Value.map.inj hvalue
    exact ⟨fun field hfield handle hcarries => hlists.filled hfills hfield hcarries,
      fun i hunnamed => hlists.kept hfills hunnamed⟩
  · intro depth d q q' start start' draft' memory memory' memory₁ memory₂ memory₃ log node body
      frame frame' reply handle hstart hfailed opens course hreply hhands
    refine ⟨handle_of_failed hstart hfailed opens course hreply hhands, ?_⟩
    intro draft bindings field hbeyond hfield hcarries
    exact Draft.settle?_of_beyond hbeyond hfield hcarries
  · intro d q start memory memory' log bindings frame hown course key handle hcarries
    rcases hown.course course bindings rfl key handle hcarries with hheld | ⟨x, hx, hhands⟩
    · exact hheld.elim
    · exact ⟨x, hx, hhands, slot_of_handed course hx hhands⟩

/-- A digit that is reserved within a rule that fails, and then a letter, which is given the
same handle. When the rule returns it the handle denotes the letter. -/
theorem handles_denote_standing_reminted :
    let digit : Pattern :=
      Standard.anchored "^[0-9]" (.seq (.look .startText) (.chars (.interval '0' '9')))
    let letter : Pattern :=
      Standard.anchored "^[a-z]" (.seq (.look .startText) (.chars (.interval 'a' 'z')))
    let outer : Body Unit Outcome :=
      .request (.choice [.rule ⟨1, "failing"⟩, .literal "-"]) fun _ =>
        .request (.pattern letter) fun
          | .ok (.pattern found) => .done (.ok (.map [("k", found.text)]))
          | _ => .done (.error .mismatch)
    let grammar : Grammar Unit := fun
      | 0 => outer
      | _ => Standard.sequence [.pattern digit, .choice []]
    let needle := Needle.single "k" (.string "a") rfl
    let left : Draft := ⟨["-", ""], [⟨1, letter⟩], false⟩
    synthesize grammar needle 1 ⟨1, "failing"⟩ .empty () = some (.failed, .empty, ()) ∧
      session (synthesize grammar needle 0) (.pattern digit) ⟨.empty, false⟩ () =
        some (.ok (.pattern (.placeholder ⟨0⟩)), ⟨⟨[""], [⟨0, digit⟩], false⟩, false⟩, ()) ∧
      Draft.empty.settle? needle (.map [("k", .slot ⟨0⟩)]) = none ∧
      left.settle? needle (.map [("k", .slot ⟨0⟩)]) =
        some ⟨["-", "a"], [⟨1, letter⟩], true⟩ ∧
      (∃ given, StandsAt grammar needle 1 ⟨0, "outer"⟩ () 1
          (.done (.ok (.map [("k", .slot ⟨0⟩)]))) ⟨left, false⟩ () given ∧
        Denotes (given.filter Given.isEntry) ⟨0⟩ 1 letter) ∧
      ∃ x : Exchange Frame Unit, HandsOut x.reply ⟨0⟩ ∧ ∃ p, .pattern p ∈ x.node.candidates ∧
        left.slots[0]? = some ⟨x.before.draft.components.length, p⟩ := by
  intro digit letter outer grammar needle left
  obtain ⟨hstands, hsettles, hgone, hown⟩ := @handles_denote_standing Unit grammar needle
  have hcourse : Course (session (synthesize grammar needle 1)) (grammar 0) ⟨.empty, false⟩ () _
      (.done (.ok (.map [("k", .slot ⟨0⟩)]))) ⟨left, false⟩ () :=
    .request rfl (.request rfl .here)
  have hfailed : synthesize grammar needle 1 ⟨1, "failing"⟩ .empty () =
      some (.failed, .empty, ()) := rfl
  have hreply : session (synthesize grammar needle 0) (.pattern digit) ⟨.empty, false⟩ () =
      some (.ok (.pattern (.placeholder ⟨0⟩)), ⟨⟨[""], [⟨0, digit⟩], false⟩, false⟩, ()) := rfl
  obtain ⟨hbeyond, hrefused⟩ := hgone rfl hfailed .own .here hreply ⟨_, rfl, rfl⟩
  have hopens : Opens grammar needle (1 + 1) ⟨0, "outer"⟩ .empty () (1 + 1) ⟨0, "outer"⟩
      .empty () := .own
  obtain ⟨given, hgiven⟩ := hstands hopens hcourse
  have hcarries : CarriesOwn outer fun _ => False := by
    rintro _ (halt | text | found | value) bindings houtcome key handle hlookup
    · cases houtcome
    · cases houtcome
    · obtain rfl := Value.map.inj (Except.ok.inj houtcome)
      simp only [List.lookup_cons, List.lookup_nil] at hlookup
      split at hlookup
      · exact Or.inr ⟨found, rfl, Option.some.inj hlookup⟩
      · cases hlookup
    · cases houtcome
  obtain ⟨x, _, hhands, p, hmem, _, hslot⟩ := hown (q := ⟨0, "outer"⟩) hcarries hcourse "k" ⟨0⟩ rfl
  refine ⟨hfailed, hreply, hrefused _ _ _ hbeyond List.mem_cons_self rfl, rfl, ?_, x,
    hhands, p, hmem, hslot⟩
  exact ⟨given, hgiven, ((hsettles hgiven rfl).1 _ _ _).1 rfl⟩

/-- A handle that is honoured after the rule has failed within which it was handed out. The
rule keeps the handle of a digit where other bodies find it. The handle of the letter that is
asked for after that is the same, and the outer rule returns the one that was kept: the text
of its field is checked against the letter and stands in the letter's place. -/
theorem stale_handle_honoured :
    let digit : Pattern :=
      Standard.anchored "^[0-9]" (.seq (.look .startText) (.chars (.interval '0' '9')))
    let letter : Pattern :=
      Standard.anchored "^[a-z]" (.seq (.look .startText) (.chars (.interval 'a' 'z')))
    let grammar : Grammar Value := fun
      | 0 => do
          let _ ← Body.ask (.choice [.rule ⟨1, "failing"⟩, .literal "-"])
          let _ ← Body.ask (.pattern letter)
          .load fun kept => .done (.ok (.map [("k", kept)]))
      | _ => do
          match ← Body.pattern digit with
          | .error halt => return .error halt
          | .ok found => .store found.text (.done (.error (.rejected "no")))
    let needle := Needle.single "k" (.string "a") rfl
    session (synthesize grammar needle 0) (.pattern digit) ⟨.empty, false⟩ .nil =
        some (.ok (.pattern (.placeholder ⟨0⟩)), ⟨⟨[""], [⟨0, digit⟩], false⟩, false⟩, .nil) ∧
      synthesize grammar needle 1 ⟨1, "failing"⟩ .empty .nil =
        some (.failed, .empty, .slot ⟨0⟩) ∧
      digit.accepts ['a'] = false ∧
      invert grammar 2 needle ⟨0, "outer"⟩ .nil = some (.complete ["-", "a"], .slot ⟨0⟩) := by
  intro digit letter grammar needle
  exact ⟨rfl, rfl, by decide +kernel, rfl⟩

end TwoWay.Backward
