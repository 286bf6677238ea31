import Mathlib.Data.List.Forall2
import Mathlib.Data.List.Induction
import TwoWay.Backward.Draft
import TwoWay.Proofs.Value.Equality

/-!
When a terminal value settles a draft. It does when it is a map of as many
fields as the needle and meets each field of the needle; what these ask for is
then written. Without slots a field is met by an equal value alone, so the value
equals the needle's map and nothing is written.

Writing goes one write after another, and of several writes into one component
the last one stays.
-/

namespace TwoWay

namespace Needle

variable {needle : Needle} {key : String} {value : Value}

theorem get?_eq_some : needle.get? key = some value ↔ (key, value) ∈ needle.fields :=
  Bindings.lookup_eq_some_of_nodup needle.ordered.nodup

theorem exists_get? (hkey : key ∈ needle.keys) : ∃ value, needle.get? key = some value := by
  obtain ⟨⟨_, value⟩, hfield, rfl⟩ := List.mem_map.1 hkey
  exact ⟨value, get?_eq_some.2 hfield⟩

theorem mem_keys_of_get? (hget : needle.get? key = some value) : key ∈ needle.keys :=
  List.mem_map.2 ⟨_, get?_eq_some.1 hget, rfl⟩

end Needle

end TwoWay

namespace TwoWay.Backward.Draft

variable {d d' : Draft} {needle : Needle} {value : Value}

theorem writesFor?_eq_some {fields : List (String × Value)} {writes : List (Nat × String)} :
    d.writesFor? value fields = some writes ↔
      ∃ parts, List.Forall₂ (fun field part => ∃ actual, value.get? field.1 = some actual ∧
          d.writesForField? field.2 actual = some part) fields parts ∧
        writes = parts.flatten := by
  induction fields generalizing writes with
  | nil =>
      constructor
      · intro h
        exact ⟨[], .nil, (Option.some.inj h).symm⟩
      · rintro ⟨parts, hparts, rfl⟩
        cases hparts
        rfl
  | cons field rest ih =>
      obtain ⟨key, expected⟩ := field
      constructor
      · intro h
        simp only [writesFor?] at h
        cases hget : value.get? key with
        | none => simp [hget] at h
        | some actual =>
            cases hfield : d.writesForField? expected actual with
            | none => simp [hget, hfield] at h
            | some part =>
                simp only [hget, hfield] at h
                obtain ⟨writes', hrest, rfl⟩ := Option.map_eq_some_iff.1 h
                obtain ⟨parts, hparts, rfl⟩ := ih.1 hrest
                exact ⟨part :: parts, .cons ⟨actual, hget, hfield⟩ hparts, rfl⟩
      · rintro ⟨parts, hparts, rfl⟩
        cases hparts with
        | @cons _ part _ parts hfirst hrest =>
            obtain ⟨actual, hget, hfield⟩ := hfirst
            simp only [writesFor?, hget, hfield, ih.2 ⟨parts, hrest, rfl⟩]
            rfl

theorem settleInOrder?_eq_some {fields : List (String × Value)} :
    d.settleInOrder? needle fields value = some d' ↔
      ∃ bindings writes, value = .map bindings ∧
        (Bindings.normal bindings).length = needle.size ∧
        d.writesFor? value fields = some writes ∧
        d' = { d.write writes with resolved := true } := by
  constructor
  · intro h
    unfold settleInOrder? at h
    cases value with
    | map bindings =>
        simp only [Value.fields?] at h
        split at h
        · rename_i hsize
          obtain ⟨writes, hwrites, rfl⟩ := Option.map_eq_some_iff.1 h
          exact ⟨bindings, writes, rfl, hsize, hwrites, rfl⟩
        · cases h
    | nil | number _ | string _ | bool _ | list _ | slot _ => simp [Value.fields?] at h
  · rintro ⟨bindings, writes, rfl, hsize, hwrites, rfl⟩
    simp [settleInOrder?, Value.fields?, hsize, hwrites]

theorem settle?_eq_some :
    d.settle? needle value = some d' ↔
      ∃ bindings writes, value = .map bindings ∧
        (Bindings.normal bindings).length = needle.size ∧
        d.writesFor? value needle.fields = some writes ∧
        d' = { d.write writes with resolved := true } :=
  settleInOrder?_eq_some

theorem writesForField?_slot {expected : Value} {handle : Handle} {part : List (Nat × String)} :
    d.writesForField? expected (.slot handle) = some part ↔
      ∃ slot text, d.slots[handle.index]? = some slot ∧ expected.needleText? = some text ∧
        slot.pattern.accepts text.toList = true ∧ part = [(slot.component, text)] := by
  cases hslot : d.slots[handle.index]? with
  | none => simp [writesForField?, hslot]
  | some slot =>
      cases htext : expected.needleText? with
      | none => simp [writesForField?, hslot, htext]
      | some text =>
          by_cases haccepts : slot.pattern.accepts text.toList = true
          · simp [writesForField?, hslot, htext, haccepts, eq_comm (a := part)]
          · simp [writesForField?, hslot, htext, haccepts]

theorem writesForField?_plain {expected actual : Value} {part : List (Nat × String)}
    (hplain : actual.slot? = none) :
    d.writesForField? expected actual = some part ↔ (actual == expected) = true ∧ part = [] := by
  cases actual with
  | slot handle => cases hplain
  | nil | number _ | string _ | bool _ | list _ | map _ =>
      constructor
      · intro h
        simp only [writesForField?] at h
        split at h
        · rename_i heq
          exact ⟨heq, (Option.some.inj h).symm⟩
        · cases h
      · rintro ⟨heq, rfl⟩
        simp only [writesForField?, heq, if_true]

/-- All that meeting some fields takes: each is met, what it asks for is written, and
nothing is written that none of them asks for. -/
theorem writesFor?_fields {fields : List (String × Value)} {writes : List (Nat × String)}
    (h : d.writesFor? value fields = some writes) :
    (∀ field ∈ fields, ∃ actual part, value.get? field.1 = some actual ∧
      d.writesForField? field.2 actual = some part ∧ part ⊆ writes) ∧
    ∀ w ∈ writes, ∃ field ∈ fields, ∃ actual part, value.get? field.1 = some actual ∧
      d.writesForField? field.2 actual = some part ∧ w ∈ part := by
  obtain ⟨parts, hparts, rfl⟩ := writesFor?_eq_some.1 h
  induction hparts with
  | nil => simp
  | @cons field part fields parts hfirst hrest ih =>
      obtain ⟨actual, hget, hpart⟩ := hfirst
      obtain ⟨hmet, hasked⟩ := ih (writesFor?_eq_some.2 ⟨parts, hrest, rfl⟩)
      constructor
      · intro other hother
        rcases List.mem_cons.1 hother with rfl | hother
        · exact ⟨actual, part, hget, hpart, List.subset_append_left _ _⟩
        · obtain ⟨actual', part', hget', hpart', hsub⟩ := hmet other hother
          exact ⟨actual', part', hget', hpart', List.subset_append_of_subset_right _ hsub⟩
      · intro w hw
        rcases List.mem_append.1 hw with hw | hw
        · exact ⟨field, List.mem_cons_self, actual, part, hget, hpart, hw⟩
        · obtain ⟨other, hother, hrest'⟩ := hasked w hw
          exact ⟨other, List.mem_cons_of_mem _ hother, hrest'⟩

theorem writesFor?_of_met {fields : List (String × Value)}
    (hmet : ∀ field ∈ fields, ∃ actual part, value.get? field.1 = some actual ∧
      d.writesForField? field.2 actual = some part) :
    ∃ writes, d.writesFor? value fields = some writes := by
  induction fields with
  | nil => exact ⟨[], rfl⟩
  | cons field rest ih =>
      obtain ⟨hfirst, hrest⟩ := List.forall_mem_cons.1 hmet
      obtain ⟨actual, part, hget, hpart⟩ := hfirst
      obtain ⟨writes, hwrites⟩ := ih hrest
      refine ⟨part ++ writes, ?_⟩
      simp only [writesFor?, hget, hpart, hwrites, Option.map_some]

/-- Each write is the text of a field whose value is a slot, for the component of that
slot. -/
theorem slot_of_mem_writes {fields : List (String × Value)} {writes : List (Nat × String)}
    (h : d.writesFor? value fields = some writes) {w : Nat × String} (hw : w ∈ writes) :
    ∃ field ∈ fields, ∃ handle slot, value.get? field.1 = some (.slot handle) ∧
      d.slots[handle.index]? = some slot ∧ field.2.needleText? = some w.2 ∧
      slot.component = w.1 := by
  obtain ⟨field, hfield, actual, part, hget, hpart, hmem⟩ := (writesFor?_fields h).2 w hw
  cases hplain : actual.slot? with
  | none =>
      obtain ⟨_, rfl⟩ := (writesForField?_plain hplain).1 hpart
      cases hmem
  | some handle =>
      obtain rfl := Value.slot?_eq_some.1 hplain
      obtain ⟨slot, text, hslot, htext, _, rfl⟩ := writesForField?_slot.1 hpart
      obtain rfl := List.mem_singleton.1 hmem
      exact ⟨field, hfield, handle, slot, hget, hslot, htext, rfl⟩

theorem lookup_of_mem_writes {writes : List (Nat × String)} {w : Nat × String} (hw : w ∈ writes) :
    ∃ last, writes.reverse.lookup w.1 = some last ∧ (w.1, last) ∈ writes := by
  cases hlast : writes.reverse.lookup w.1 with
  | none =>
      have hne := List.lookup_eq_none_iff.1 hlast w (List.mem_reverse.2 hw)
      simp at hne
  | some last =>
      obtain ⟨before, after, hsplit, _⟩ := List.lookup_eq_some_iff.1 hlast
      refine ⟨last, rfl, List.mem_reverse.1 ?_⟩
      simp [hsplit]

/-- A component holds what was last written into it, or else what it held before. -/
theorem getElem?_write (d : Draft) (writes : List (Nat × String)) (i : Nat) :
    (d.write writes).components[i]? =
      d.components[i]?.map fun old => (writes.reverse.lookup i).getD old := by
  induction writes using List.reverseRecOn with
  | nil => simp [write]
  | append_singleton writes w ih =>
      obtain ⟨component, text⟩ := w
      have hlast : (d.write (writes ++ [(component, text)])).components =
          (d.write writes).components.set component text := by
        simp [write]
      rw [hlast, List.getElem?_set', ih, List.reverse_append]
      by_cases heq : component = i
      · subst heq
        cases d.components[component]? <;> simp
      · have hne : (i == component) = false := beq_eq_false_iff_ne.2 (Ne.symm heq)
        simp [heq, List.lookup_cons, hne]

theorem length_write (d : Draft) (writes : List (Nat × String)) :
    (d.write writes).components.length = d.components.length := by
  induction writes using List.reverseRecOn with
  | nil => rfl
  | append_singleton writes w ih =>
      rw [← ih]
      simp [write]

theorem settle?_resolved (h : d.settle? needle value = some d') : d'.resolved = true := by
  obtain ⟨bindings, writes, _, _, _, rfl⟩ := settle?_eq_some.1 h
  rfl

theorem length_settle? (h : d.settle? needle value = some d') :
    d'.components.length = d.components.length := by
  obtain ⟨bindings, writes, _, _, _, rfl⟩ := settle?_eq_some.1 h
  exact length_write d writes

section NoSlots

variable (hslots : d.slots = [])

include hslots

theorem writesForField?_of_no_slots {expected actual : Value} {part : List (Nat × String)}
    (h : d.writesForField? expected actual = some part) :
    part = [] ∧ (actual == expected) = true := by
  cases actual with
  | slot handle => simp [writesForField?, hslots] at h
  | nil | number _ | string _ | bool _ | list _ | map _ =>
      simp only [writesForField?] at h
      split at h
      · rename_i heq
        exact ⟨(Option.some.inj h).symm, heq⟩
      · cases h

theorem settle?_of_no_slots (h : d.settle? needle value = some d') :
    d'.components = d.components ∧ (value == needle.value) = true := by
  obtain ⟨bindings, writes, rfl, hsize, hwrites, rfl⟩ := settle?_eq_some.1 h
  obtain ⟨parts, hparts, rfl⟩ := writesFor?_eq_some.1 hwrites
  have hfields : List.Forall₂ (fun field part =>
      (∃ actual, bindings.lookup field.1 = some actual ∧ (actual == field.2) = true) ∧
        part = []) needle.fields parts := by
    refine hparts.imp ?_
    rintro field part ⟨actual, hget, hpart⟩
    obtain ⟨hempty, heq⟩ := writesForField?_of_no_slots hslots hpart
    exact ⟨⟨actual, hget, heq⟩, hempty⟩
  obtain ⟨hmet, hempty⟩ := (List.forall₂_and_left _ _).1 hfields
  have hnone : List.Forall₂ (fun part _ => part = [] ∧ True) parts needle.fields :=
    .flip (hempty.imp fun _ _ h => ⟨h, trivial⟩)
  have hwritten : parts.flatten = [] :=
    List.flatten_eq_nil_iff.2 ((List.forall₂_and_left _ _).1 hnone).1
  constructor
  · simp [hwritten, write]
  · exact Value.map_beq_of_lookup needle.ordered hsize hmet

end NoSlots

end TwoWay.Backward.Draft
