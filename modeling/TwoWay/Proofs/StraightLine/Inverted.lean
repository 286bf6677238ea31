import TwoWay.Proofs.Backward.Resolution
import TwoWay.Proofs.StraightLine.Item

/-!
The inversion of a straight line. All its requests are answered, and they lay the items
out: a component for each, in order, and a slot for each pattern. No two fields of the
record have one slot, so a needle settles what is laid out just when the record can
carry it, and the components are then the items with the needle's texts in the places
of the patterns.
-/

namespace TwoWay

variable {M : Type}

namespace Backward

/-- Puts items out: texts as they are, components with slots for patterns. -/
def Draft.lay (d : Draft) : List Item → Draft
  | [] => d
  | .literal text :: rest => (d.push text).lay rest
  | .pattern _ p :: rest => (d.reserve p).2.lay rest

/-- The slots of the patterns among items of which the first one's component is at
`place`. -/
def slotsFrom (place : Nat) : List Item → List Slot
  | [] => []
  | .literal _ :: rest => slotsFrom (place + 1) rest
  | .pattern _ p :: rest => ⟨place, p⟩ :: slotsFrom (place + 1) rest

/-- The fields that the patterns among items give, the first slot being at `index`. -/
def handlesFrom (index : Nat) : List Item → List (String × Value)
  | [] => []
  | .literal _ :: rest => handlesFrom index rest
  | .pattern key _ :: rest => (key, .slot ⟨index⟩) :: handlesFrom (index + 1) rest

def blank : Item → String
  | .literal text => text
  | .pattern _ _ => ""

theorem Draft.lay_eq (d : Draft) (items : List Item) :
    d.lay items = ⟨d.components ++ items.map blank,
      d.slots ++ slotsFrom d.components.length items, d.resolved⟩ := by
  induction items generalizing d with
  | nil => simp [lay, slotsFrom]
  | cons item rest ih =>
      cases item with
      | literal text => simp [lay, ih, push, slotsFrom, blank]
      | pattern key p => simp [lay, ih, reserve, slotsFrom, blank]

theorem Draft.grows_lay (d : Draft) (items : List Item) : d.Grows (d.lay items) := by
  induction items generalizing d with
  | nil => exact .refl
  | cons item rest ih =>
      cases item with
      | literal text => exact .trans (.push text .refl) (ih (d.push text))
      | pattern key p => exact .trans (.reserve p .refl) (ih (d.reserve p).2)

theorem keys_handlesFrom (index : Nat) (items : List Item) :
    Bindings.keys (handlesFrom index items) = Item.keys items := by
  induction items generalizing index with
  | nil => rfl
  | cons item rest ih =>
      cases item with
      | literal text => exact ih index
      | pattern key p => exact congrArg (key :: ·) (ih (index + 1))

theorem slot_of_pattern {items : List Item} {i : Nat} {key : String} {p : Pattern}
    (hitem : items[i]? = some (.pattern key p)) (place index : Nat) :
    ∃ j, (key, .slot ⟨index + j⟩) ∈ handlesFrom index items ∧
      (slotsFrom place items)[j]? = some ⟨place + i, p⟩ := by
  induction items generalizing i place index with
  | nil => simp at hitem
  | cons item rest ih =>
      cases i with
      | zero =>
          obtain rfl : item = .pattern key p := by simpa using hitem
          exact ⟨0, List.mem_cons_self, rfl⟩
      | succ i =>
          have hrest : rest[i]? = some (.pattern key p) := by simpa using hitem
          cases item with
          | literal text =>
              obtain ⟨j, hmem, hslot⟩ := ih hrest (place + 1) index
              refine ⟨j, hmem, ?_⟩
              rw [slotsFrom, hslot, Nat.add_right_comm, Nat.add_assoc]
          | pattern key' p' =>
              obtain ⟨j, hmem, hslot⟩ := ih hrest (place + 1) (index + 1)
              refine ⟨j + 1, ?_, ?_⟩
              · rw [handlesFrom, Nat.add_comm j 1, ← Nat.add_assoc]
                exact List.mem_cons_of_mem _ hmem
              · rw [slotsFrom, List.getElem?_cons_succ, hslot, Nat.add_right_comm, Nat.add_assoc]

theorem pattern_of_handle {items : List Item} {key : String} {value : Value} {index : Nat}
    (hfield : (key, value) ∈ handlesFrom index items) (place : Nat) :
    ∃ i p j, items[i]? = some (.pattern key p) ∧ value = .slot ⟨index + j⟩ ∧
      (slotsFrom place items)[j]? = some ⟨place + i, p⟩ := by
  induction items generalizing place index with
  | nil => cases hfield
  | cons item rest ih =>
      cases item with
      | literal text =>
          obtain ⟨i, p, j, hitem, hvalue, hslot⟩ := ih hfield (place + 1)
          refine ⟨i + 1, p, j, hitem, hvalue, ?_⟩
          rw [slotsFrom, hslot, Nat.add_right_comm, Nat.add_assoc]
      | pattern key' p' =>
          rcases List.mem_cons.1 hfield with heq | hrest
          · obtain ⟨rfl, rfl⟩ := Prod.mk.inj heq
            exact ⟨0, p', 0, rfl, rfl, rfl⟩
          · obtain ⟨i, p, j, hitem, hvalue, hslot⟩ := ih hrest (place + 1)
            refine ⟨i + 1, p, j + 1, hitem, ?_, ?_⟩
            · rw [hvalue, Nat.add_comm j 1, ← Nat.add_assoc]
            · rw [slotsFrom, List.getElem?_cons_succ, hslot, Nat.add_right_comm, Nat.add_assoc]

theorem run_askAll {run : Runner M} {constants found : List (String × Value)} {items : List Item}
    (hconsuming : ∀ key p, .pattern key p ∈ items → p.zeroWidth = false) {d : Draft}
    (hlive : d.resolved = false) (memory : M) :
    (Item.askAll constants items found).run (session run) ⟨d, false⟩ memory =
      some (.ok (.record (found ++ handlesFrom d.slots.length items ++ constants)),
        ⟨d.lay items, false⟩, memory) := by
  induction items generalizing d found with
  | nil => simp [Item.askAll, handlesFrom, Draft.lay, Body.run, pure]
  | cons item rest ih =>
      have hrest : ∀ key p, .pattern key p ∈ rest → p.zeroWidth = false := fun key p hmem =>
        hconsuming key p (List.mem_cons_of_mem _ hmem)
      cases item with
      | literal text =>
          have hstep : session run (.literal text) ⟨d, false⟩ memory =
              some (.ok (.literal text), ⟨d.push text, false⟩, memory) :=
            session_of_live hlive rfl
          have hopen : (d.push text).resolved = false := hlive
          rw [Item.run_literal_ok hstep, ih hrest hopen]
          rfl
      | pattern key p =>
          have hzero : p.zeroWidth = false := hconsuming key p List.mem_cons_self
          have hstep : session run (.pattern p) ⟨d, false⟩ memory =
              some (.ok (.pattern (.placeholder ⟨d.slots.length⟩)), ⟨(d.reserve p).2, false⟩,
                memory) := by
            rw [session_of_live hlive rfl]
            simp [Node.candidates, tryCandidates, hzero, Draft.reserve]
          have hslots : (d.reserve p).2.slots.length = d.slots.length + 1 := by
            simp [Draft.reserve]
          have hopen : (d.reserve p).2.resolved = false := hlive
          rw [Item.run_pattern_ok hstep, ih hrest hopen, hslots]
          simp [handlesFrom, Draft.lay, Pattern.Match.placeholder]

end Backward

namespace Line

section Settle

variable (line : Line) {needle : Needle}

def entries : List (String × Value) := Backward.handlesFrom 0 line.items ++ line.constants

def laid : Backward.Draft := Backward.Draft.empty.lay line.items

theorem keys_entries : Bindings.keys line.entries = line.keys := by
  rw [entries, Bindings.keys, List.map_append]
  exact congrArg (· ++ _) (Backward.keys_handlesFrom 0 line.items)

theorem laid_eq : line.laid =
    ⟨line.items.map Backward.blank, Backward.slotsFrom 0 line.items, false⟩ := by
  simp [laid, Backward.Draft.lay_eq, Backward.Draft.empty]

theorem laid_reserved : line.laid.Reserved :=
  Backward.Draft.reserved_empty.grows (Backward.Draft.grows_lay _ _)

theorem mem_of_lookup {key : String} {value : Value} :
    (Bindings.ofEntries line.entries).lookup key = some value ↔ (key, value) ∈ line.entries := by
  have hnodup : (Bindings.keys line.entries).Nodup := by
    rw [keys_entries]
    exact line.distinct
  exact Bindings.lookup_ofEntries_eq_some hnodup

theorem lookup_pattern {i : Nat} {key : String} {p : Pattern}
    (hitem : line.items[i]? = some (.pattern key p)) :
    ∃ j, (Bindings.ofEntries line.entries).lookup key = some (.slot ⟨j⟩) ∧
      line.laid.slots[j]? = some ⟨i, p⟩ := by
  obtain ⟨j, hmem, hslot⟩ := Backward.slot_of_pattern hitem 0 0
  rw [Nat.zero_add] at hmem hslot
  refine ⟨j, line.mem_of_lookup.2 (List.mem_append_left _ hmem), ?_⟩
  rw [laid_eq]
  exact hslot

theorem lookup_constant {field : String × Value} (hfield : field ∈ line.constants) :
    (Bindings.ofEntries line.entries).lookup field.1 = some field.2 :=
  line.mem_of_lookup.2 (List.mem_append_right _ hfield)

theorem pattern_of_lookup {key : String} {handle : Handle}
    (hlookup : (Bindings.ofEntries line.entries).lookup key = some (.slot handle)) :
    ∃ i p, line.items[i]? = some (.pattern key p) ∧
      line.laid.slots[handle.index]? = some ⟨i, p⟩ := by
  rcases List.mem_append.1 (line.mem_of_lookup.1 hlookup) with hhandle | hconstant
  · obtain ⟨i, p, j, hitem, hvalue, hslot⟩ := Backward.pattern_of_handle hhandle 0
    rw [Nat.zero_add] at hvalue hslot
    obtain rfl := Value.slot.inj hvalue
    refine ⟨i, p, hitem, ?_⟩
    rw [laid_eq]
    exact hslot
  · have hprimitive := line.primitive _ hconstant
    cases hprimitive

variable {line} {d : Backward.Draft}

theorem meets_of_settle
    (hstrings : ∀ key ∈ Item.keys line.items, ∀ value, needle.get? key = some value →
      ∃ text, value = .string text)
    (hsettle : line.laid.settle? needle (.record line.entries) = some d) : line.Meets needle := by
  obtain ⟨_, hrecord, hfills⟩ := Backward.Draft.settle?_fills line.laid_reserved hsettle
  obtain rfl := Value.map.inj hrecord
  have hkeys : ∀ key, key ∈ needle.keys ↔ key ∈ line.keys := by
    intro key
    rw [← hfills.keys, Bindings.mem_keys_normal, Bindings.mem_keys_ofEntries, keys_entries]
  refine ⟨hkeys, ?_, ?_⟩
  · intro field hfield
    have hkey : field.1 ∈ needle.keys :=
      (hkeys field.1).2 (List.mem_append_right _ (List.mem_map_of_mem hfield))
    obtain ⟨expected, hget⟩ := Needle.exists_get? hkey
    have hlookup := line.lookup_constant hfield
    rcases hfills.fields _ (Needle.get?_eq_some.1 hget) with ⟨actual, hactual, _, heq⟩ |
      ⟨handle, _, _, hnames, _⟩
    · rw [hlookup] at hactual
      obtain rfl := Option.some.inj hactual
      exact ⟨expected, hget, heq⟩
    · rw [hlookup] at hnames
      have hprimitive := line.primitive field hfield
      rw [Option.some.inj hnames] at hprimitive
      cases hprimitive
  · intro key p hitem
    obtain ⟨i, hi, hat⟩ := List.getElem_of_mem hitem
    obtain ⟨j, hlookup, hslot⟩ := line.lookup_pattern (List.getElem?_eq_some_iff.2 ⟨hi, hat⟩)
    have hkey : key ∈ Item.keys line.items := Item.mem_keys hitem
    obtain ⟨expected, hget⟩ := Needle.exists_get? ((hkeys key).2 (List.mem_append_left _ hkey))
    obtain ⟨text, rfl⟩ := hstrings key hkey expected hget
    rcases hfills.fields _ (Needle.get?_eq_some.1 hget) with ⟨actual, hactual, hplain, _⟩ |
      ⟨handle, slot, text', hnames, hslot', htext, haccepts, _⟩
    · rw [hlookup] at hactual
      obtain rfl := Option.some.inj hactual
      cases hplain
    · rw [hlookup] at hnames
      obtain rfl := Value.slot.inj (Option.some.inj hnames)
      rw [hslot] at hslot'
      obtain rfl := Option.some.inj hslot'
      obtain rfl : text = text' := Option.some.inj htext
      exact ⟨text, hget, haccepts⟩

theorem agree_entries : Backward.Agree needle (Bindings.ofEntries line.entries) := by
  intro a ha b hb handle hnamesa hnamesb
  obtain ⟨i, p, hitem, hslot⟩ := line.pattern_of_lookup hnamesa
  obtain ⟨i', p', hitem', hslot'⟩ := line.pattern_of_lookup hnamesb
  rw [hslot] at hslot'
  obtain ⟨rfl, rfl⟩ := Backward.Slot.mk.inj (Option.some.inj hslot')
  rw [hitem] at hitem'
  obtain ⟨hkey, _⟩ := Item.pattern.inj (Option.some.inj hitem')
  have hgeta : needle.get? a.1 = some a.2 := Needle.get?_eq_some.2 ha
  have hgetb : needle.get? b.1 = some b.2 := Needle.get?_eq_some.2 hb
  rw [hkey, hgetb] at hgeta
  rw [Option.some.inj hgeta]

theorem components_of_settle (hmeets : line.Meets needle)
    (hsettle : line.laid.settle? needle (.record line.entries) = some d) :
    d.components = line.items.map (Item.spell needle) := by
  obtain ⟨_, hrecord, hfills⟩ := Backward.Draft.settle?_fills line.laid_reserved hsettle
  obtain rfl := Value.map.inj hrecord
  have hshows := hfills.shows_iff.2 line.agree_entries
  apply List.ext_getElem?
  intro i
  -- Only the components of patterns are written into.
  have hother (hnone : ∀ key p, line.items[i]? ≠ some (.pattern key p)) :
      d.components[i]? = line.laid.components[i]? := by
    refine hfills.others i fun field _ handle slot hnames hslot heq => ?_
    obtain ⟨i', p, hitem, hslot'⟩ := line.pattern_of_lookup hnames
    rw [hslot] at hslot'
    obtain rfl := Option.some.inj hslot'
    obtain rfl : i' = i := heq
    exact hnone field.1 p hitem
  rw [List.getElem?_map]
  cases hitem : line.items[i]? with
  | none =>
      rw [hother (by simp [hitem]), laid_eq]
      simp [hitem]
  | some item =>
      cases item with
      | literal text =>
          rw [hother (by simp [hitem]), laid_eq]
          simp [hitem, Backward.blank, Item.spell]
      | pattern key p =>
          obtain ⟨j, hlookup, hslot⟩ := line.lookup_pattern hitem
          obtain ⟨text, hget, _⟩ := hmeets.patterns key p (List.mem_of_getElem? hitem)
          have hstands := hshows _ (Needle.get?_eq_some.1 hget) ⟨j⟩ ⟨i, p⟩ hlookup hslot
          rw [hstands]
          simp [Item.spell, Item.textOf, hget, Value.needleText?, Value.text, Value.string?]

theorem length_of_meets (hmeets : line.Meets needle) {entries : List (String × Value)}
    (hkeys : Bindings.keys entries = line.keys) :
    (Bindings.normal (Bindings.ofEntries entries)).length = needle.size := by
  have hsame : Bindings.keys (Bindings.normal (Bindings.ofEntries entries)) = needle.keys := by
    refine Bindings.keys_eq_of_mem_iff (Bindings.ordered_normal _) needle.ordered fun key => ?_
    rw [Bindings.mem_keys_normal, Bindings.mem_keys_ofEntries, hkeys]
    exact (hmeets.keys key).symm
  have hlength := congrArg List.length hsame
  simpa [Bindings.keys, Needle.keys, Needle.size] using hlength

theorem settle_of_meets (hmeets : line.Meets needle) :
    ∃ d, line.laid.settle? needle (.record line.entries) = some d := by
  have hmet : ∀ field ∈ needle.fields, ∃ actual part,
      (Value.record line.entries).get? field.1 = some actual ∧
      line.laid.writesForField? field.2 actual = some part := by
    intro field hfield
    have hget : needle.get? field.1 = some field.2 := Needle.get?_eq_some.2 hfield
    have hkey : field.1 ∈ line.keys := (hmeets.keys field.1).1 (Needle.mem_keys_of_get? hget)
    rcases List.mem_append.1 hkey with hpattern | hconstant
    · obtain ⟨p, hitem⟩ := Item.exists_pattern hpattern
      obtain ⟨i, hi, hat⟩ := List.getElem_of_mem hitem
      obtain ⟨j, hlookup, hslot⟩ := line.lookup_pattern (List.getElem?_eq_some_iff.2 ⟨hi, hat⟩)
      obtain ⟨text, htext, haccepts⟩ := hmeets.patterns field.1 p hitem
      rw [hget] at htext
      refine ⟨.slot ⟨j⟩, [(i, text)], hlookup, ?_⟩
      refine Backward.Draft.writesForField?_slot.2 ⟨⟨i, p⟩, text, hslot, ?_, haccepts, rfl⟩
      rw [Option.some.inj htext]
      rfl
    · obtain ⟨⟨key, value⟩, hconstant, heq⟩ := List.mem_map.1 hconstant
      obtain rfl : key = field.1 := heq
      obtain ⟨expected, hexpected, hequal⟩ := hmeets.constants _ hconstant
      rw [hget] at hexpected
      obtain rfl := Option.some.inj hexpected
      have hplain : value.slot? = none := by
        have hprimitive := line.primitive _ hconstant
        cases value with
        | slot handle => cases hprimitive
        | nil | number _ | string _ | bool _ | list _ | map _ => rfl
      exact ⟨value, [], line.lookup_constant hconstant,
        (Backward.Draft.writesForField?_plain hplain).2 ⟨hequal, rfl⟩⟩
  obtain ⟨writes, hwrites⟩ := Backward.Draft.writesFor?_of_met hmet
  exact ⟨_, Backward.Draft.settle?_eq_some.2
    ⟨_, writes, rfl, length_of_meets hmeets line.keys_entries, hwrites, rfl⟩⟩

/-- What the inversion of a line comes to: whether the needle settles what the line has
laid out decides. -/
def inverted (line : Line) (needle : Needle) : Backward.Inversion :=
  match line.laid.settle? needle (.record line.entries) with
  | some d => .complete d.components
  | none => .none

theorem invert_line {grammar : Grammar M} {r : Rule} (hbody : grammar r.id = line.body)
    (depth : Nat) (memory : M) :
    Backward.invert grammar (depth + 1) needle r memory =
      some (line.inverted needle, memory) := by
  have hrun : line.body.run (Backward.session (Backward.synthesize grammar needle depth))
      ⟨.empty, false⟩ memory =
        some (.ok (.record line.entries), ⟨line.laid, false⟩, memory) :=
    Backward.run_askAll line.consuming rfl memory
  have hlive : line.laid.resolved = false := by rw [laid_eq]
  rw [Backward.invert, Backward.synthesize_succ, hbody, hrun]
  simp only [Option.map_some, Backward.Frame.finish, hlive, Bool.false_eq_true, if_false,
    Value.record, inverted]
  cases line.laid.settle? needle (.map (Bindings.ofEntries line.entries)) <;> rfl

/-- The inversion of a line gives a text just for a needle that the record can carry, and
it is the one that the items spell. -/
theorem text?_inverted
    (hstrings : ∀ key ∈ Item.keys line.items, ∀ value, needle.get? key = some value →
      ∃ text, value = .string text) (text : String) :
    (line.inverted needle).text? = some text ↔
      line.Meets needle ∧ text = Item.spellAll needle line.items := by
  unfold inverted
  cases hsettle : line.laid.settle? needle (.record line.entries) with
  | none =>
      constructor
      · intro h
        cases h
      · rintro ⟨hmeets, _⟩
        obtain ⟨d, hsettled⟩ := settle_of_meets hmeets
        rw [hsettle] at hsettled
        cases hsettled
  | some d =>
      have hmeets := meets_of_settle hstrings hsettle
      have hcomponents := components_of_settle hmeets hsettle
      simp only [Backward.Inversion.text?, Option.some.injEq, hcomponents]
      constructor
      · rintro rfl
        exact ⟨hmeets, rfl⟩
      · rintro ⟨_, rfl⟩
        rfl

end Settle

end Line

end TwoWay
