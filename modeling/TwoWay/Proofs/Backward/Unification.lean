import TwoWay.Proofs.Backward.SlotTable

/-!
When a value settles a draft, and what it does to it. The code compares two sizes and looks
up the keys of the needle alone, it stops at the first field that is not met, and it writes
only after it has been through all fields. What this comes to can be said without its steps:
the value is a map with the keys of the needle, and each field of the needle is met by it.

The fields of a needle have no order of their own. Here they are visited in any order; what
decides, and which components are rewritten, is the same in all of them.
-/

namespace TwoWay

theorem Value.needleText?_eq_some {v : Value} {text : String} (hprimitive : v.isPrimitive = true) :
    v.needleText? = some text ↔ v ≠ .nil ∧ v.text = text := by
  cases v with
  | nil => simp [Value.needleText?]
  | number n => simp [Value.needleText?]
  | string s => simp [Value.needleText?]
  | bool b => simp [Value.needleText?]
  | list items => cases hprimitive
  | map bindings => cases hprimitive
  | slot handle => cases hprimitive

namespace Backward

open Body (Course)

variable {M : Type}

/-- Whether the map of some bindings has a slot of the draft for a field of the needle. -/
def Names (d : Draft) (bindings : List (String × Value)) (field : String × Value)
    (slot : Slot) : Prop :=
  ∃ handle, bindings.lookup field.1 = some (.slot handle) ∧ d.slots[handle.index]? = some slot

/-- Whether the map of some bindings meets a field of the needle: by a slot of the draft that
accepts the text of the field, which is not nothing, or by an equal value. -/
inductive Meets (d : Draft) (bindings : List (String × Value)) (field : String × Value) :
    Prop where
  | slot {slot : Slot} :
      Names d bindings field slot → field.2 ≠ .nil →
      slot.pattern.accepts field.2.text.toList = true → Meets d bindings field
  | plain {actual : Value} :
      bindings.lookup field.1 = some actual → actual.slot? = none →
      (actual == field.2) = true → Meets d bindings field

section Field

variable {d : Draft} {bindings : List (String × Value)} {field : String × Value}

theorem meets_iff (hprimitive : field.2.isPrimitive = true) :
    Meets d bindings field ↔
      ∃ actual part, bindings.lookup field.1 = some actual ∧
        d.writesForField? field.2 actual = some part := by
  constructor
  · rintro (⟨⟨handle, hget, hslot⟩, hnil, haccepts⟩ | ⟨hget, hplain, heq⟩)
    · have htext : field.2.needleText? = some field.2.text :=
        (Value.needleText?_eq_some hprimitive).2 ⟨hnil, rfl⟩
      exact ⟨_, _, hget, Draft.writesForField?_slot.2 ⟨_, _, hslot, htext, haccepts, rfl⟩⟩
    · exact ⟨_, _, hget, (Draft.writesForField?_plain hplain).2 ⟨heq, rfl⟩⟩
  · rintro ⟨actual, part, hget, hpart⟩
    cases hslot? : actual.slot? with
    | none => exact .plain hget hslot? ((Draft.writesForField?_plain hslot?).1 hpart).1
    | some handle =>
        obtain rfl := Value.slot?_eq_some.1 hslot?
        obtain ⟨slot, text, hslot, htext, haccepts, _⟩ := Draft.writesForField?_slot.1 hpart
        obtain ⟨hnil, rfl⟩ := (Value.needleText?_eq_some hprimitive).1 htext
        exact .slot ⟨handle, hget, hslot⟩ hnil haccepts

theorem Meets.needleText? (hmeets : Meets d bindings field)
    (hprimitive : field.2.isPrimitive = true) {handle : Handle}
    (hget : bindings.lookup field.1 = some (.slot handle)) :
    field.2.needleText? = some field.2.text := by
  cases hmeets with
  | slot _ hnil _ => exact (Value.needleText?_eq_some hprimitive).2 ⟨hnil, rfl⟩
  | plain hactual hplain _ =>
      rw [hget] at hactual
      obtain rfl := Option.some.inj hactual
      cases hplain

end Field

namespace Draft

variable {d d' : Draft} {needle : Needle} {value : Value} {bindings fields : List (String × Value)}

/-- The verdict. As many keys as the needle has, and each of the needle's among them, are the
keys of the needle. -/
theorem exists_settleInOrder? (horder : fields.Perm needle.fields) :
    (∃ d', d.settleInOrder? needle fields value = some d') ↔
      ∃ bindings, value = .map bindings ∧
        (∀ key, key ∈ Bindings.keys bindings ↔ key ∈ needle.keys) ∧
        ∀ field ∈ needle.fields, Meets d bindings field := by
  constructor
  · rintro ⟨d', h⟩
    obtain ⟨bindings, writes, rfl, hsize, hwrites, _⟩ := settleInOrder?_eq_some.1 h
    obtain ⟨hmet, _⟩ := writesFor?_fields hwrites
    have hfields : ∀ field ∈ needle.fields, ∃ actual part,
        bindings.lookup field.1 = some actual ∧
          d.writesForField? field.2 actual = some part := by
      intro field hfield
      obtain ⟨actual, part, hget, hpart, _⟩ := hmet field (horder.mem_iff.2 hfield)
      exact ⟨actual, part, hget, hpart⟩
    -- Keys are looked up one way only; that there are no others is in the sizes.
    have hsub : needle.keys ⊆ Bindings.keys (Bindings.normal bindings) := by
      intro key hkey
      obtain ⟨field, hfield, rfl⟩ := List.mem_map.1 hkey
      obtain ⟨actual, _, hget, _⟩ := hfields field hfield
      exact Bindings.mem_keys_normal.2 (Bindings.mem_keys_of_lookup hget)
    have hkeys : Bindings.keys (Bindings.normal bindings) = needle.keys :=
      Bindings.keys_eq_of_subset (Bindings.ordered_normal bindings) needle.ordered hsize hsub
    refine ⟨bindings, rfl, ?_, ?_⟩
    · intro key
      rw [← hkeys, Bindings.mem_keys_normal]
    · intro field hfield
      exact (meets_iff (needle.primitive field hfield)).2 (hfields field hfield)
  · rintro ⟨bindings, rfl, hkeys, hmeets⟩
    have hsame : Bindings.keys (Bindings.normal bindings) = needle.keys := by
      refine Bindings.keys_eq_of_mem_iff (Bindings.ordered_normal bindings) needle.ordered ?_
      intro key
      rw [Bindings.mem_keys_normal]
      exact hkeys key
    have hsize : (Bindings.normal bindings).length = needle.size := by
      have hlength := congrArg List.length hsame
      simpa [Bindings.keys, Needle.keys, Needle.size] using hlength
    have hmet : ∀ field ∈ fields, ∃ actual part, (Value.map bindings).get? field.1 = some actual ∧
        d.writesForField? field.2 actual = some part := by
      intro field hfield
      have hmem := horder.mem_iff.1 hfield
      exact (meets_iff (needle.primitive field hmem)).1 (hmeets field hmem)
    obtain ⟨writes, hwrites⟩ := writesFor?_of_met hmet
    exact ⟨_, settleInOrder?_eq_some.2 ⟨bindings, writes, rfl, hsize, hwrites, rfl⟩⟩

theorem mem_writes_iff (horder : fields.Perm needle.fields) {writes : List (Nat × String)}
    (hwrites : d.writesFor? (.map bindings) fields = some writes) (i : Nat) :
    (∃ text, (i, text) ∈ writes) ↔
      ∃ field ∈ needle.fields, ∃ slot, Names d bindings field slot ∧ slot.component = i := by
  constructor
  · rintro ⟨text, hmem⟩
    obtain ⟨field, hfield, handle, slot, hget, hslot, _, heq⟩ := slot_of_mem_writes hwrites hmem
    exact ⟨field, horder.mem_iff.1 hfield, slot, ⟨handle, hget, hslot⟩, heq⟩
  · rintro ⟨field, hfield, slot, ⟨handle, hnames, hslot⟩, rfl⟩
    obtain ⟨actual, part, hget, hpart, hsub⟩ :=
      (writesFor?_fields hwrites).1 field (horder.mem_iff.2 hfield)
    obtain rfl : actual = .slot handle := Option.some.inj (hget.symm.trans hnames)
    obtain ⟨slot', text, hslot', _, _, rfl⟩ := writesForField?_slot.1 hpart
    obtain rfl : slot = slot' := Option.some.inj (hslot.symm.trans hslot')
    exact ⟨text, hsub List.mem_cons_self⟩

/-- What it does to a draft to be settled by a map: the table, the number of components and each
component that no field names are as they were, and a component that is named holds the text of
a field that names it. -/
structure Commits (d : Draft) (needle : Needle) (bindings : List (String × Value))
    (d' : Draft) : Prop where
  resolved : d'.resolved = true
  slots : d'.slots = d.slots
  length : d'.components.length = d.components.length
  others : ∀ i, (∀ field ∈ needle.fields, ∀ slot, Names d bindings field slot →
    slot.component ≠ i) → d'.components[i]? = d.components[i]?
  named : ∀ field ∈ needle.fields, ∀ slot, Names d bindings field slot →
    ∃ shown ∈ needle.fields, Names d bindings shown slot ∧
      d'.components[slot.component]? = some shown.2.text

theorem commits_of_settleInOrder? (hspaced : d.Spaced) (horder : fields.Perm needle.fields)
    (h : d.settleInOrder? needle fields (.map bindings) = some d') :
    Commits d needle bindings d' := by
  obtain ⟨_, hvalue, hfills⟩ := settleInOrder?_fills hspaced horder h
  obtain rfl := Value.map.inj hvalue
  obtain ⟨_, writes, _, _, _, hd'⟩ := settleInOrder?_eq_some.1 h
  refine ⟨by rw [hd'], by rw [hd']; rfl, by rw [hd']; exact length_write d writes, ?_, ?_⟩
  · intro i hunnamed
    refine hfills.others i ?_
    intro field hfield handle slot hget hslot
    exact hunnamed field hfield slot ⟨handle, hget, hslot⟩
  · rintro field hfield slot ⟨handle, hget, hslot⟩
    obtain ⟨shown, hshown, hsame, hstands⟩ := hfills.filled hfield hget hslot
    refine ⟨shown, hshown, ⟨handle, hsame, hslot⟩, ?_⟩
    rw [hstands]
    obtain ⟨_, hvalue, _, hmeets⟩ := (exists_settleInOrder? horder).1 ⟨d', h⟩
    obtain rfl := Value.map.inj hvalue
    exact (hmeets shown hshown).needleText? (needle.primitive shown hshown) hsame

theorem isSome_settleInOrder? (horder : fields.Perm needle.fields) :
    (d.settleInOrder? needle fields value).isSome = (d.settle? needle value).isSome := by
  rw [Bool.eq_iff_iff, Option.isSome_iff_exists, Option.isSome_iff_exists, settle?,
    exists_settleInOrder? horder, exists_settleInOrder? (List.Perm.refl needle.fields)]

end Draft

theorem finish_of_unmet {d mark : Draft} {needle : Needle} {value : Value}
    (hopen : d.resolved = false) (hvalue : value ≠ .nil) (hunmet : d.settle? needle value = none) :
    Frame.finish needle mark ⟨d, false⟩ (.ok value) = (.failed, d.rollback mark) := by
  unfold Frame.finish
  rw [if_neg (by simp [hopen]), if_neg (by simp)]
  cases value with
  | nil => exact absurd rfl hvalue
  | number _ | string _ | bool _ | list _ | map _ | slot _ => simp only [hunmet]

/-- What a value comes to in a draft that some inversion comes to, with the fields of the needle
visited in any order. It settles the draft just when it is a map with the keys of the needle that
meets each of its fields; the order changes neither this nor which components are rewritten. A
rule that has any other value fails, and the draft is cut back to what the rule began with; one
that has such a map completes with the draft that it settles. -/
theorem settling_exact {grammar : Grammar M} {target needle : Needle} {r : Rule} {memory : M}
    {d : Draft} {value : Value} {fields : List (String × Value)}
    (hreaches : Reaches grammar target r memory d) (horder : fields.Perm needle.fields) :
    ((∃ d', d.settleInOrder? needle fields value = some d') ↔
      ∃ bindings, value = .map bindings ∧
        (∀ key, key ∈ Bindings.keys bindings ↔ key ∈ needle.keys) ∧
        ∀ field ∈ needle.fields, Meets d bindings field) ∧
    (d.settleInOrder? needle fields value).isSome = (d.settle? needle value).isSome ∧
    (d.settleInOrder? needle fields value = none → value ≠ .nil → d.resolved = false →
      ∀ mark : Draft,
        Frame.finish needle mark ⟨d, false⟩ (.ok value) = (.failed, d.rollback mark)) ∧
    (∀ {d' : Draft}, d.settleInOrder? needle fields value = some d' →
      ∃ bindings writes, value = .map bindings ∧ d.writesFor? value fields = some writes ∧
        (∀ i, (∃ text, (i, text) ∈ writes) ↔
          ∃ field ∈ needle.fields, ∃ slot, Names d bindings field slot ∧ slot.component = i) ∧
        d.Commits needle bindings d') ∧
    ∀ {d' : Draft}, d.settle? needle value = some d' →
      (∃ bindings, value = .map bindings ∧ d.Commits needle bindings d') ∧
        (d.resolved = false → ∀ mark : Draft,
          Frame.finish needle mark ⟨d, false⟩ (.ok value) = (.complete, d')) := by
  have hspaced := hreaches.spaced.1
  have hsame := @Draft.isSome_settleInOrder? d needle value fields horder
  refine ⟨Draft.exists_settleInOrder? horder, hsame, ?_, ?_, ?_⟩
  · intro hunmet hvalue hopen mark
    refine finish_of_unmet hopen hvalue ?_
    rwa [hunmet, Option.isSome_none, eq_comm, Option.isSome_eq_false_iff,
      Option.isNone_iff_eq_none] at hsame
  · intro d' hsettle
    obtain ⟨bindings, writes, rfl, _, hwrites, _⟩ := Draft.settleInOrder?_eq_some.1 hsettle
    exact ⟨bindings, writes, rfl, hwrites, Draft.mem_writes_iff horder hwrites,
      Draft.commits_of_settleInOrder? hspaced horder hsettle⟩
  · intro d' hsettle
    obtain ⟨bindings, _, rfl, _⟩ := Draft.settle?_eq_some.1 hsettle
    have hcommits : d.Commits needle bindings d' :=
      Draft.commits_of_settleInOrder? hspaced (.refl needle.fields) hsettle
    exact ⟨⟨bindings, rfl, hcommits⟩, fun hopen _ => finish_of_settle hopen hsettle⟩

/-- Two digits that a rule returns in the other order, beside a plain field, with the needle
visited from its last field to its first. -/
theorem settling_exact_crossed :
    let digit : Pattern :=
      Standard.anchored "^[0-9]" (.seq (.look .startText) (.chars (.interval '0' '9')))
    let grammar : Grammar Unit := fun _ =>
      Standard.sequence [.literal "<", .pattern digit, .pattern digit]
    let needle : Needle :=
      ⟨[("a", .string "5"), ("b", .string "7"), ("c", .string "x")], by decide, by decide,
        by decide⟩
    let value : Value := .map [("a", .slot ⟨1⟩), ("b", .slot ⟨0⟩), ("c", .string "x")]
    let slots : List Slot := [⟨1, digit⟩, ⟨2, digit⟩]
    let d : Draft := ⟨["<", "", ""], slots, false⟩
    let d' : Draft := ⟨["<", "7", "5"], slots, true⟩
    Reaches grammar needle ⟨0, "digits"⟩ () d ∧
      d.settleInOrder? needle needle.fields.reverse value = some d' ∧
      d'.components.length = d.components.length ∧ (d.settle? needle value).isSome = true := by
  intro digit grammar needle value slots d d'
  have hown : Opens grammar needle 1 ⟨0, "digits"⟩ .empty () 1 ⟨0, "digits"⟩ .empty () := .own
  have hcourse : Course (session (synthesize grammar needle 0)) (grammar 0) ⟨.empty, false⟩ () _
      (.done (.ok .nil)) ⟨d, false⟩ () := .request rfl (.request rfl (.request rfl .here))
  have hreaches : Reaches grammar needle ⟨0, "digits"⟩ () d := .moment hown hcourse
  have hsettle : d.settleInOrder? needle needle.fields.reverse value = some d' := rfl
  have horder : needle.fields.reverse.Perm needle.fields := List.reverse_perm needle.fields
  obtain ⟨_, hsame, _, hsettled, _⟩ :=
    @settling_exact Unit grammar needle needle _ () d value _ hreaches horder
  obtain ⟨_, _, _, _, _, hcommits⟩ := hsettled hsettle
  refine ⟨hreaches, hsettle, hcommits.length, ?_⟩
  rw [← hsame, hsettle]
  rfl

end Backward

end TwoWay
