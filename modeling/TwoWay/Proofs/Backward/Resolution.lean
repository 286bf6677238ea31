import TwoWay.Grammar.Standard
import TwoWay.Proofs.Backward.Slots

/-!
What a complete inversion shows of its needle. One frame settles the draft: its
body comes to a map with the needle's keys, each of whose fields either equals
the needle's or is a slot that accepts the needle's text. No frame around it
touches the draft afterwards.

The writes for all fields are collected before any is made, and nothing compares
them. Two fields that name one slot with different texts are both taken as met,
though only one of the texts can stand there; so a field's text is sure to appear
just when the fields that name its slot agree.
-/

namespace TwoWay.Backward

open Body (Course Exchange)

variable {M : Type}

/-- Some frame of an inversion whose requests have all been answered comes to `value`,
with the draft `left` in which the needle is unmet. -/
inductive Offers (grammar : Grammar M) (needle : Needle) (depth : Nat) (r : Rule)
    (draft : Draft) (memory : M) (left : Draft) (value : Value) : Prop where
  | frame {d : Nat} {q : Rule} {start : Draft} {memory₁ memory₂ : M}
      {log : List (Exchange Frame M)} :
      Opens grammar needle depth r draft memory (d + 1) q start memory₁ →
      Course (session (synthesize grammar needle d)) (grammar q.id) ⟨start, false⟩ memory₁ log
        (.done (.ok value)) ⟨left, false⟩ memory₂ →
      left.resolved = false →
      Offers grammar needle depth r draft memory left value

section Walk

variable {grammar : Grammar M} {needle : Needle} {depth : Nat} {r : Rule} {draft draft' : Draft}
  {memory memory' : M}

theorem Offers.reserved {left : Draft} {value : Value} (hdraft : draft.Reserved)
    (h : Offers grammar needle depth r draft memory left value) : left.Reserved := by
  obtain ⟨opens, course, hlive⟩ := h
  exact opens.reserved hdraft course hlive

theorem complete_of_session {run : Runner M} (hatomic : run.Atomic) {node : Node}
    {frame frame' : Frame} {reply : Reply}
    (hreply : session run node frame memory = some (reply, frame', memory'))
    (hlive : frame.draft.resolved = false) (hmet : frame'.draft.resolved = true) :
    frame.halted = false ∧ frame'.halted = false ∧
      ∃ pre q post draft₁ memory₁, node.candidates = pre ++ .rule q :: post ∧
        Passed run pre frame.draft memory draft₁ memory₁ ∧ draft₁.resolved = false ∧
        run q draft₁ memory₁ = some (.complete, frame'.draft, memory') := by
  rcases session_cases hreply with ⟨hresolved, _⟩ | ⟨_, _, _, rfl, _⟩ |
    ⟨_, hrunning, pre, c, post, draft₁, memory₁, draft₂, hnode, hpre, hc, rfl⟩ |
    ⟨_, _, draft₁, hnode, _, rfl⟩
  · rw [hlive] at hresolved
    cases hresolved
  · rw [hlive] at hmet
    cases hmet
  · obtain rfl := hpre.draft_eq hatomic hlive
    have hopen : draft₂.resolved = true := hmet
    cases reply with
    | ok answer => simp [(keeps_of_answer hatomic hlive hc).live] at hopen
    | error halt =>
        obtain ⟨q, rfl, _, hq⟩ := complete_of_attempt hc
        exact ⟨hrunning, rfl, pre, q, post, _, memory₁, hnode, hpre, hlive, hq⟩
  · obtain rfl := hnode.draft_eq hatomic hlive
    rw [hlive] at hmet
    cases hmet

/-- By induction on the depth at which a frame lies: either its own value settles
the draft, or a rule below it completes and the frame leaves the draft as that rule
did. -/
theorem offers_of_complete {d : Nat} {q : Rule} {start : Draft} {memory₁ : M}
    (opens : Opens grammar needle depth r draft memory d q start memory₁)
    (hlive : start.resolved = false)
    (hrun : synthesize grammar needle d q start memory₁ = some (.complete, draft', memory')) :
    ∃ left value, Offers grammar needle depth r draft memory left value ∧
      left.settle? needle value = some draft' := by
  induction d generalizing q start memory₁ draft' memory' with
  | zero => simp [synthesize] at hrun
  | succ d ih =>
      obtain ⟨outcome, ⟨left, halted⟩, hbody, hfinish⟩ := synthesize_succ_eq_some.1 hrun
      obtain ⟨log, course⟩ := Body.course_of_run hbody
      cases hresolved : left.resolved with
      | false =>
          rcases finish_cases hresolved hfinish with ⟨hfailed, _⟩ | ⟨_, _, hunfinished, _⟩ |
            ⟨hrunning, _, value, _, rfl, hsettle⟩
          · cases hfailed
          · cases hunfinished
          · obtain rfl : halted = false := hrunning
            exact ⟨left, value, .frame opens course hresolved, hsettle⟩
      | true =>
          rw [finish_of_resolved hresolved] at hfinish
          obtain rfl : left = draft' := congrArg Prod.snd hfinish
          obtain ⟨node, next, frame₁, memory₂, reply, frame₂, memory₃, before, after, hbefore,
            hopen, hreply, hmet, hafter⟩ :=
            course.change (p := fun frame => frame.draft.resolved) hlive hresolved
          obtain ⟨hrunning, _, pre, q', post, draft₁, memory₄, hnode, hpre, hstart, hq'⟩ :=
            complete_of_session (synthesize_atomic grammar needle d) hreply hopen hmet
          -- What is left of the body after the request is refused everything.
          have hrefuses : Body.Refuses (session (synthesize grammar needle d)) .resolved frame₂ :=
            refuses_of_resolved hmet
          obtain ⟨rfl, _⟩ := hrefuses.course hafter
          exact ih (.nested opens hbefore hopen hrunning hnode hpre) hstart hq'

end Walk

/-- Whether the text of a field, if the value takes it from a slot, stands in the
component of that slot. -/
def Shows (left : Draft) (bindings : List (String × Value)) (components : List String)
    (field : String × Value) : Prop :=
  ∀ handle slot, bindings.lookup field.1 = some (.slot handle) →
    left.slots[handle.index]? = some slot →
    components[slot.component]? = field.2.needleText?

/-- Whether fields that a value takes from one slot have one text. -/
def Agree (needle : Needle) (bindings : List (String × Value)) : Prop :=
  ∀ a ∈ needle.fields, ∀ b ∈ needle.fields, ∀ handle,
    bindings.lookup a.1 = some (.slot handle) → bindings.lookup b.1 = some (.slot handle) →
    a.2.needleText? = b.2.needleText?

/-- What the components of a settled draft are to the value that settled it. -/
structure Fills (left : Draft) (needle : Needle) (bindings : List (String × Value))
    (components : List String) : Prop where
  keys : Bindings.keys (Bindings.normal bindings) = needle.keys
  fields : ∀ field ∈ needle.fields,
    (∃ actual, bindings.lookup field.1 = some actual ∧ actual.slot? = none ∧
      (actual == field.2) = true) ∨
    ∃ handle slot text, bindings.lookup field.1 = some (.slot handle) ∧
      left.slots[handle.index]? = some slot ∧ field.2.needleText? = some text ∧
      slot.pattern.accepts text.toList = true ∧
      ∃ shown ∈ needle.fields, bindings.lookup shown.1 = some (.slot handle) ∧
        components[slot.component]? = shown.2.needleText?
  others : ∀ i, (∀ field ∈ needle.fields, ∀ handle slot,
      bindings.lookup field.1 = some (.slot handle) → left.slots[handle.index]? = some slot →
      slot.component ≠ i) →
    components[i]? = left.components[i]?

theorem Fills.filled {left : Draft} {needle : Needle} {bindings : List (String × Value)}
    {components : List String} (h : Fills left needle bindings components)
    {field : String × Value} {handle : Handle} {slot : Slot} (hfield : field ∈ needle.fields)
    (hnames : bindings.lookup field.1 = some (.slot handle))
    (hslot : left.slots[handle.index]? = some slot) :
    ∃ shown ∈ needle.fields, bindings.lookup shown.1 = some (.slot handle) ∧
      components[slot.component]? = shown.2.needleText? := by
  rcases h.fields field hfield with ⟨actual, hactual, hplain, _⟩ |
    ⟨handle', slot', _, hnames', hslot', _, _, hfilled⟩
  · rw [hnames] at hactual
    obtain rfl := Option.some.inj hactual
    cases hplain
  · rw [hnames] at hnames'
    obtain rfl := Value.slot.inj (Option.some.inj hnames')
    rw [hslot] at hslot'
    obtain rfl := Option.some.inj hslot'
    exact hfilled

theorem Fills.shows_iff {left : Draft} {needle : Needle} {bindings : List (String × Value)}
    {components : List String} (h : Fills left needle bindings components) :
    (∀ field ∈ needle.fields, Shows left bindings components field) ↔ Agree needle bindings := by
  constructor
  · intro hshows a ha b hb handle hnamesa hnamesb
    rcases h.fields a ha with ⟨actual, hactual, hplain, _⟩ | ⟨handle', slot, _, hnames, hslot, _⟩
    · rw [hnamesa] at hactual
      obtain rfl := Option.some.inj hactual
      cases hplain
    · rw [hnamesa] at hnames
      obtain rfl := Value.slot.inj (Option.some.inj hnames)
      rw [← hshows a ha handle slot hnamesa hslot, hshows b hb handle slot hnamesb hslot]
  · intro hagree field hfield handle slot hnames hslot
    obtain ⟨shown, hshown, hsame, hstands⟩ := h.filled hfield hnames hslot
    rw [hstands]
    exact hagree shown hshown field hfield handle hsame hnames

namespace Draft

variable {d d' : Draft} {needle : Needle} {value : Value}

/-- A draft in which each slot has a component of its own is settled by a value whose
fields are met in it, in whatever order the needle's fields are visited. -/
theorem settleInOrder?_fills {fields : List (String × Value)} (hspaced : d.Spaced)
    (horder : fields.Perm needle.fields) (h : d.settleInOrder? needle fields value = some d') :
    ∃ bindings, value = .map bindings ∧ Fills d needle bindings d'.components := by
  obtain ⟨bindings, writes, rfl, hsize, hwrites, rfl⟩ := settleInOrder?_eq_some.1 h
  obtain ⟨hmet, hasked⟩ := writesFor?_fields hwrites
  refine ⟨bindings, rfl, ?_, ?_, ?_⟩
  · refine Bindings.keys_eq_of_subset (Bindings.ordered_normal bindings) needle.ordered hsize ?_
    intro key hkey
    obtain ⟨field, hfield, rfl⟩ := List.mem_map.1 hkey
    obtain ⟨actual, _, hget, _⟩ := hmet field (horder.mem_iff.2 hfield)
    exact Bindings.mem_keys_normal.2 (Bindings.mem_keys_of_lookup hget)
  · intro field hfield
    obtain ⟨actual, part, hget, hpart, hsub⟩ := hmet field (horder.mem_iff.2 hfield)
    cases hslot? : actual.slot? with
    | none => exact Or.inl ⟨actual, hget, hslot?, ((writesForField?_plain hslot?).1 hpart).1⟩
    | some handle =>
        obtain rfl := Value.slot?_eq_some.1 hslot?
        obtain ⟨slot, text, hslot, htext, haccepts, rfl⟩ := writesForField?_slot.1 hpart
        refine Or.inr ⟨handle, slot, text, hget, hslot, htext, haccepts, ?_⟩
        -- The last text written into the component is that of a field with the same slot.
        have hasked : (slot.component, text) ∈ writes := hsub List.mem_cons_self
        obtain ⟨last, hlast, hmem⟩ := lookup_of_mem_writes hasked
        obtain ⟨shown, hshown, handle', slot', hget', hslot', htext', heq⟩ :=
          slot_of_mem_writes hwrites hmem
        have hplace : handle'.index = handle.index := hspaced.place_eq hslot' hslot heq
        have hsame : handle' = handle := by
          cases handle
          cases handle'
          exact congrArg Handle.mk hplace
        have hbound : slot.component < d.components.length :=
          hspaced.bound slot (List.mem_of_getElem? hslot)
        have hold := List.getElem?_eq_getElem hbound
        refine ⟨shown, horder.mem_iff.1 hshown, hsame ▸ hget', ?_⟩
        show (d.write writes).components[slot.component]? = _
        rw [getElem?_write, hold, hlast, htext']
        rfl
  · intro i hnone
    have hunwritten : writes.reverse.lookup i = none := by
      apply List.lookup_eq_none_iff.2
      intro w hw
      obtain ⟨field, hfield, handle, slot, hget, hslot, _, heq⟩ :=
        slot_of_mem_writes hwrites (List.mem_reverse.1 hw)
      have hne : slot.component ≠ i := hnone field (horder.mem_iff.1 hfield) handle slot hget hslot
      rw [heq] at hne
      simpa using Ne.symm hne
    show (d.write writes).components[i]? = _
    rw [getElem?_write, hunwritten]
    simp

theorem settle?_fills (hreserved : d.Reserved) (h : d.settle? needle value = some d') :
    ∃ bindings, value = .map bindings ∧ Fills d needle bindings d'.components :=
  settleInOrder?_fills hreserved.spaced (.refl _) h

end Draft

/-- A complete inversion ends with the components that one frame settled. The map that
this frame came to has the needle's keys. Each field of it that is no slot equals the
needle's; each that is one accepts the needle's text, and its component holds the text of
a field that names the slot. All other components are as they were put out. So the text
of each field appears at its slot just when the fields of one slot have one text. -/
theorem complete_inversion_fills {grammar : Grammar M} {needle : Needle} {depth : Nat} {r : Rule}
    {memory memory' : M} {components : List String}
    (hcomplete : invert grammar depth needle r memory = some (.complete components, memory')) :
    ∃ left bindings,
      Offers grammar needle depth r .empty memory left (.map bindings) ∧
      left.settle? needle (.map bindings) = some ⟨components, left.slots, true⟩ ∧
      Fills left needle bindings components ∧
      ((∀ field ∈ needle.fields, Shows left bindings components field) ↔
        Agree needle bindings) := by
  obtain ⟨⟨ending, draft, memory₁⟩, hrun, hended⟩ := Option.map_eq_some_iff.1 hcomplete
  obtain ⟨hending, rfl⟩ := Prod.mk.inj hended
  cases ending with
  | unfinished => cases hending
  | failed => cases hending
  | complete =>
      obtain rfl : draft.components = components := Inversion.complete.inj hending
      obtain ⟨left, value, hoffers, hsettle⟩ := offers_of_complete .own rfl hrun
      have hreserved : left.Reserved := hoffers.reserved Draft.reserved_empty
      obtain ⟨bindings, rfl, hfills⟩ := Draft.settle?_fills hreserved hsettle
      have hsettled : draft = ⟨draft.components, left.slots, true⟩ := by
        obtain ⟨_, writes, _, _, _, rfl⟩ := Draft.settle?_eq_some.1 hsettle
        rfl
      refine ⟨left, bindings, hoffers, ?_, hfills, hfills.shows_iff⟩
      rw [hsettle]
      exact congrArg some hsettled

/-- A text, and below it a rule that takes one field from a first digit and two from a
second. -/
theorem complete_inversion_fills_nested :
    let digit : Pattern :=
      Standard.anchored "^[0-9]" (.seq (.look .startText) (.chars (.interval '0' '9')))
    let grammar : Grammar Unit := fun
      | 0 => Standard.sequence [.literal "<", .choice [.rule ⟨1, "digits"⟩, .literal ">"]]
      | _ => do
          match ← Body.pattern digit with
          | .error halt => return .error halt
          | .ok first =>
              match ← Body.pattern digit with
              | .error halt => return .error halt
              | .ok second =>
                  return .ok (.record
                    [("a", second.text), ("b", first.text), ("c", second.text)])
    let needle : Needle :=
      ⟨[("a", .string "2"), ("b", .string "1"), ("c", .string "2")], by decide, by decide,
        by decide⟩
    invert grammar 2 needle ⟨0, "outer"⟩ () = some (.complete ["<", "1", "2"], ()) ∧
      ∃ left bindings,
        left.settle? needle (.map bindings) = some ⟨["<", "1", "2"], left.slots, true⟩ ∧
        Fills left needle bindings ["<", "1", "2"] := by
  intro digit grammar needle
  have hcomplete : invert grammar 2 needle ⟨0, "outer"⟩ () =
      some (.complete ["<", "1", "2"], ()) := by decide +kernel
  obtain ⟨left, bindings, _, hsettle, hfills, _⟩ := complete_inversion_fills hcomplete
  exact ⟨hcomplete, left, bindings, hsettle, hfills⟩

/-- Two fields that a rule takes from one slot, where the needle has two texts for them.
The inversion is complete, and the text of the first field is nowhere in it. -/
theorem complete_inversion_hides_field :
    let digit : Pattern :=
      Standard.anchored "^[0-9]" (.seq (.look .startText) (.chars (.interval '0' '9')))
    let grammar : Grammar Unit := fun _ => do
      match ← Body.pattern digit with
      | .error halt => return .error halt
      | .ok found => return .ok (.record [("a", found.text), ("b", found.text)])
    let needle : Needle :=
      ⟨[("a", .string "1"), ("b", .string "2")], by decide, by decide, by decide⟩
    let left : Draft := ⟨[""], [⟨0, digit⟩], false⟩
    let bindings := Bindings.ofEntries [("a", Value.slot ⟨0⟩), ("b", Value.slot ⟨0⟩)]
    invert grammar 1 needle ⟨0, "both"⟩ () = some (.complete ["2"], ()) ∧
      Offers grammar needle 1 ⟨0, "both"⟩ .empty () left (.map bindings) ∧
      left.settle? needle (.map bindings) = some ⟨["2"], left.slots, true⟩ ∧
      ("a", .string "1") ∈ needle.fields ∧ ¬ Shows left bindings ["2"] ("a", .string "1") := by
  intro digit grammar needle left bindings
  refine ⟨by decide +kernel, ?_, rfl, List.mem_cons_self, ?_⟩
  · exact .frame .own (.request rfl .here) rfl
  · intro hshows
    have hstands : (["2"] : List String)[0]? = some "1" := hshows ⟨0⟩ ⟨0, digit⟩ rfl rfl
    exact absurd hstands (by decide)

end TwoWay.Backward
