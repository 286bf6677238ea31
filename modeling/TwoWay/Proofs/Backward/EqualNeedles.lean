import TwoWay.Grammar.Standard
import TwoWay.Proofs.Backward.FieldOrder
import TwoWay.Proofs.Value.Primitive

/-!
Equal needles invert alike, up to the sign of zero. A needle is held against the values that
rules come to in two ways: a plain field must equal the needle's, and a slot takes the needle's
text. Equal needles cannot be told apart in the first way. In the second only the two zeros can,
which are equal and have two texts.

Each needle may have its fields visited in an order of its own. That is not seen, unless the
value that meets the needle takes fields with different texts from one slot.
-/

namespace TwoWay.Backward

open Body (Course)

variable {M : Type}

/-- Whether two needles have no zeros of opposite signs under a key for which the map of some
bindings has a slot. -/
def SignsUnseen (needle needle' : Needle) (bindings : List (String × Value)) : Prop :=
  ∀ a ∈ needle.fields, ∀ b ∈ needle'.fields, a.1 = b.1 →
    ∀ handle, bindings.lookup a.1 = some (.slot handle) → ¬ Value.OppositeZeros a.2 b.2

theorem Draft.writesForField?_eq_of_beq {d : Draft} {a b actual : Value}
    (ha : a.isPrimitive = true) (hb : b.isPrimitive = true) (hab : (a == b) = true)
    (htext : ∀ handle, actual = .slot handle → a.needleText? = b.needleText?) :
    d.writesForField? a actual = d.writesForField? b actual := by
  have hequals : (actual == a) = (actual == b) := by
    rw [Bool.eq_iff_iff]
    constructor
    · intro h
      exact Value.beq_trans ha hb h hab
    · intro h
      exact Value.beq_trans hb ha h (Value.beq_symm hb hab)
  cases actual with
  | slot handle => simp only [writesForField?, htext handle rfl]
  | nil | number _ | string _ | bool _ | list _ | map _ => simp only [writesForField?, hequals]

theorem Draft.writesFor?_eq_of_forall₂ {d : Draft} {bindings as bs : List (String × Value)}
    (h : List.Forall₂ (fun a b => a.1 = b.1 ∧
      ∀ actual, bindings.lookup a.1 = some actual →
        d.writesForField? a.2 actual = d.writesForField? b.2 actual) as bs) :
    d.writesFor? (.map bindings) as = d.writesFor? (.map bindings) bs := by
  induction h with
  | nil => rfl
  | @cons a b as bs hfirst _ ih =>
      obtain ⟨key, expected⟩ := a
      obtain ⟨key', expected'⟩ := b
      obtain ⟨rfl, hpart⟩ : key = key' ∧ _ := hfirst
      simp only [writesFor?, Value.get?]
      cases hactual : bindings.lookup key with
      | none => rfl
      | some actual => simp only [hpart actual hactual, ih]

section Equal

variable {needle needle' : Needle} {bindings fields fields' : List (String × Value)} {d : Draft}
  (heq : (needle == needle') = true) (hsigns : SignsUnseen needle needle' bindings)

include heq hsigns

/-- When equal needles have their fields visited in one order of the keys, at each place a map meets
both fields alike. -/
theorem fields_alike (horder : fields.Perm needle.fields) (horder' : fields'.Perm needle'.fields)
    (hkeys : Bindings.keys fields = Bindings.keys fields') :
    List.Forall₂ (fun a b => a.1 = b.1 ∧
      ∀ actual, bindings.lookup a.1 = some actual →
        d.writesForField? a.2 actual = d.writesForField? b.2 actual) fields fields' := by
  have hplaces : List.Forall₂ (· = ·) (Bindings.keys fields) (Bindings.keys fields') := by
    rwa [List.forall₂_eq_eq_eq]
  rw [Bindings.keys, Bindings.keys, List.forall₂_map_left_iff, List.forall₂_map_right_iff,
    List.forall₂_iff_zip] at hplaces
  obtain ⟨hlength, hsame⟩ := hplaces
  refine List.forall₂_iff_zip.2 ⟨hlength, ?_⟩
  rintro ⟨key, expected⟩ ⟨key', expected'⟩ hplace
  obtain rfl : key = key' := hsame hplace
  obtain ⟨ha, hb⟩ := List.of_mem_zip hplace
  rw [horder.mem_iff] at ha
  rw [horder'.mem_iff] at hb
  obtain ⟨value, hvalue, hab⟩ := Needle.field_of_beq heq ha
  have hnodup := needle'.ordered.nodup
  obtain rfl : value = expected' := Option.some.inj
    (((Bindings.lookup_eq_some_of_nodup hnodup).2 hvalue).symm.trans
      ((Bindings.lookup_eq_some_of_nodup hnodup).2 hb))
  refine ⟨rfl, fun actual hget => ?_⟩
  refine Draft.writesForField?_eq_of_beq (needle.primitive _ ha) (needle'.primitive _ hb) hab ?_
  rintro handle rfl
  have hzeros := hsigns _ ha _ hb rfl handle hget
  exact (Value.needleText?_eq_iff_of_beq (needle'.primitive _ hb) hab).2 hzeros

theorem settleInOrder?_eq_of_equal (horder : fields.Perm needle.fields)
    (horder' : fields'.Perm needle'.fields)
    (hkeys : Bindings.keys fields = Bindings.keys fields') :
    d.settleInOrder? needle' fields' (.map bindings) =
      d.settleInOrder? needle fields (.map bindings) := by
  have hsize : needle.size = needle'.size := (Needle.beq_iff.1 heq).length_eq
  have halike := fields_alike (d := d) heq hsigns horder horder' hkeys
  have hwrites := Draft.writesFor?_eq_of_forall₂ halike
  simp only [Draft.settleInOrder?, Value.fields?, hsize, hwrites]

theorem agree_of_equal (hagree : Agree needle bindings) : Agree needle' bindings := by
  have htexts : ∀ b ∈ needle'.fields, ∀ handle, bindings.lookup b.1 = some (.slot handle) →
      ∃ a ∈ needle.fields, a.1 = b.1 ∧ a.2.needleText? = b.2.needleText? := by
    intro b hb handle hslot
    obtain ⟨value, ha, hba⟩ := Needle.field_of_beq (Needle.beq_symm heq) hb
    have hab := Value.beq_symm (needle.primitive _ ha) hba
    have hzeros := hsigns _ ha b hb rfl handle hslot
    exact ⟨_, ha, rfl,
      (Value.needleText?_eq_iff_of_beq (needle'.primitive b hb) hab).2 hzeros⟩
  intro b hb c hc handle hslotb hslotc
  obtain ⟨a, ha, hkeya, htexta⟩ := htexts b hb handle hslotb
  obtain ⟨a', ha', hkeya', htexta'⟩ := htexts c hc handle hslotc
  rw [← htexta, ← htexta']
  rw [← hkeya] at hslotb
  rw [← hkeya'] at hslotc
  exact hagree a ha a' ha' handle hslotb hslotc

end Equal

section Inversion

variable {grammar : Grammar M} {needle needle' : Needle} {depth : Nat} {r : Rule} {memory : M}

/-- An inversion for a needle goes as one for an equal needle, unless a value that meets the one or
the other has a slot for a zero of which the two have opposite signs. The fields of each may be
visited in an order of their own, if these are one order of the keys, or if the value that meets
the needle takes fields from one slot only if they have one text. -/
theorem equal_needles_invert_alike (heq : (needle == needle') = true)
    (hsigns : ∀ {left bindings},
      Offers grammar needle depth r .empty memory left (.map bindings) →
        left.settle? needle (.map bindings) ≠ none ∨ left.settle? needle' (.map bindings) ≠ none →
          SignsUnseen needle needle' bindings) :
    invert grammar depth needle r memory = invert grammar depth needle' r memory ∧
    ∀ {fields fields' : List (String × Value)},
      fields.Perm needle.fields → fields'.Perm needle'.fields →
      (Bindings.keys fields = Bindings.keys fields' ∨
        ∀ {left bindings settled},
          Offers grammar needle depth r .empty memory left (.map bindings) →
            left.settle? needle (.map bindings) = some settled → Agree needle bindings) →
        invertInOrder grammar depth needle fields r memory =
          invertInOrder grammar depth needle' fields' r memory := by
  have halike {fields fields' : List (String × Value)} (horder : fields.Perm needle.fields)
      (horder' : fields'.Perm needle'.fields)
      (hkeys : Bindings.keys fields = Bindings.keys fields') :
      SettlesAlike grammar needle fields depth r .empty memory needle' fields' := by
    refine settlesAlike_of_maps ?_
    intro left bindings hoffers
    by_cases hmet : left.settle? needle (.map bindings) ≠ none ∨
        left.settle? needle' (.map bindings) ≠ none
    · exact settleInOrder?_eq_of_equal heq (hsigns hoffers hmet) horder horder' hkeys
    · rw [not_or, not_ne_iff, not_ne_iff] at hmet
      rw [(Draft.settleInOrder?_eq_none horder).2 hmet.1,
        (Draft.settleInOrder?_eq_none horder').2 hmet.2]
  have hkeys : needle.keys = needle'.keys := Needle.keys_eq_of_beq heq
  have hordered : SettlesAlike grammar needle needle.fields depth r .empty memory needle'
    needle'.fields := halike (.refl _) (.refl _) hkeys
  constructor
  · calc
      invert grammar depth needle r memory
          = invertInOrder grammar depth needle needle.fields r memory := invertInOrder_fields.symm
      _ = invertInOrder grammar depth needle' needle'.fields r memory :=
            (invertInOrder_eq (.refl _) hordered).symm
      _ = invert grammar depth needle' r memory := invertInOrder_fields
  · intro fields fields' horder horder' hcondition
    rcases hcondition with hsame | hagree
    · exact (invertInOrder_eq horder (halike horder horder' hsame)).symm
    · have hany : SettlesAlike grammar needle fields depth r .empty memory needle' fields' := by
        refine settlesAlike_of_maps ?_
        intro left bindings hoffers
        have hspaced := (hoffers.reserved Draft.reserved_empty).spaced
        have hequal : left.settle? needle' (.map bindings) = left.settle? needle (.map bindings) :=
          hordered hoffers
        have hown : left.settleInOrder? needle fields (.map bindings) =
            left.settle? needle (.map bindings) :=
          Draft.settleInOrder?_eq_settle? hspaced horder fun _ hsettle => hagree hoffers hsettle
        have hother : left.settleInOrder? needle' fields' (.map bindings) =
            left.settle? needle' (.map bindings) := by
          refine Draft.settleInOrder?_eq_settle? hspaced horder' ?_
          intro settled hsettle
          rw [hequal] at hsettle
          have hmet : left.settle? needle (.map bindings) ≠ none := by simp [hsettle]
          exact agree_of_equal heq (hsigns hoffers (.inl hmet)) (hagree hoffers hsettle)
        rw [hother, hequal, hown]
      exact (invertInOrder_eq horder hany).symm

/-- A digit that two fields name, beside a zero that the rule returns itself, for needles whose
zeros have different signs. One of them has its fields visited from the last to the first. -/
theorem equal_needles_invert_alike_plain_zero :
    let digit : Pattern :=
      Standard.anchored "^[0-9]" (.seq (.look .startText) (.chars (.interval '0' '9')))
    let grammar : Grammar Unit := fun _ => do
      let _ ← Body.ask (.literal "<")
      match ← Body.pattern digit with
      | .error halt => return .error halt
      | .ok found =>
          return .ok (.record [("a", .number 0), ("b", found.text), ("c", found.text)])
    let needle : Needle :=
      ⟨[("a", .number 0), ("b", .string "7"), ("c", .number 7)], by decide, by decide, by decide⟩
    let needle' : Needle :=
      ⟨[("a", .number (-0)), ("b", .string "7"), ("c", .number 7)], by decide, by decide,
        by decide⟩
    (needle == needle') = true ∧
      invert grammar 1 needle ⟨0, "digit"⟩ () = some (.complete ["<", "7"], ()) ∧
      invert grammar 1 needle' ⟨0, "digit"⟩ () = some (.complete ["<", "7"], ()) ∧
      invertInOrder grammar 1 needle needle.fields.reverse ⟨0, "digit"⟩ () =
        invertInOrder grammar 1 needle' needle'.fields ⟨0, "digit"⟩ () := by
  intro digit grammar needle needle'
  have heq : (needle == needle') = true := by decide +kernel
  have hinvert : invert grammar 1 needle ⟨0, "digit"⟩ () = some (.complete ["<", "7"], ()) := by
    decide +kernel
  have hbody : (grammar 0).run (session (synthesize grammar needle 0)) ⟨.empty, false⟩ () =
      some (.ok (.record [("a", .number 0), ("b", .slot ⟨0⟩), ("c", .slot ⟨0⟩)]),
        ⟨⟨["<", ""], [⟨1, digit⟩], false⟩, false⟩, ()) := rfl
  -- No rule is tried on the way, so the one value that is offered is that of the rule itself.
  have hoffered {left : Draft} {bindings : List (String × Value)}
      (hoffers : Offers grammar needle 1 ⟨0, "digit"⟩ .empty () left (.map bindings)) :
      ∀ key handle, bindings.lookup key = some (.slot handle) → key ≠ "a" := by
    obtain ⟨opens, course, _⟩ := hoffers
    cases opens with
    | own =>
        rw [course.run_eq] at hbody
        obtain rfl := Value.map.inj (Except.ok.inj (congrArg Prod.fst (Option.some.inj hbody)))
        rintro _ handle hslot rfl
        cases hslot
    | nested hopens _ _ _ _ _ => exact absurd hopens.depth_le (by omega)
  have hsigns {left : Draft} {bindings : List (String × Value)}
      (hoffers : Offers grammar needle 1 ⟨0, "digit"⟩ .empty () left (.map bindings))
      (_ : left.settle? needle (.map bindings) ≠ none ∨
        left.settle? needle' (.map bindings) ≠ none) : SignsUnseen needle needle' bindings := by
    have halike : ∀ a ∈ needle.fields, ∀ b ∈ needle'.fields, a.1 = b.1 → a.1 ≠ "a" →
        (a.2 == b.2) = true ∧ a.2.needleText? = b.2.needleText? := by decide +kernel
    intro a ha b hb hkey handle hslot
    obtain ⟨hab, htext⟩ := halike a ha b hb hkey (hoffered hoffers _ _ hslot)
    exact (Value.needleText?_eq_iff_of_beq (needle'.primitive b hb) hab).1 htext
  have hagree {left settled : Draft} {bindings : List (String × Value)}
      (hoffers : Offers grammar needle 1 ⟨0, "digit"⟩ .empty () left (.map bindings))
      (_ : left.settle? needle (.map bindings) = some settled) : Agree needle bindings := by
    have htexts : ∀ a ∈ needle.fields, ∀ b ∈ needle.fields, a.1 ≠ "a" → b.1 ≠ "a" →
        a.2.needleText? = b.2.needleText? := by decide +kernel
    intro a ha b hb handle hslota hslotb
    exact htexts a ha b hb (hoffered hoffers _ _ hslota) (hoffered hoffers _ _ hslotb)
  obtain ⟨hsame, hanyOrder⟩ :=
    @equal_needles_invert_alike Unit grammar needle needle' 1 ⟨0, "digit"⟩ () heq hsigns
  refine ⟨heq, hinvert, hsame.symm.trans hinvert, ?_⟩
  exact hanyOrder (List.reverse_perm needle.fields) (List.Perm.refl needle'.fields) (.inr hagree)

/-- Two needles that are equal, with zeros of different signs, and a rule that takes the field
from a slot: the one text has the sign and the other does not. -/
theorem equal_needles_told_apart :
    let sign : Regex.Expr := .repeats 0 (some 1) true (.chars (.interval '-' '-'))
    let digit : Regex.Expr := .chars (.interval '0' '9')
    let number : Pattern :=
      Standard.anchored "^-?[0-9]" (.seq (.look .startText) (.seq sign digit))
    let grammar : Grammar Unit := fun _ => do
      match ← Body.pattern number with
      | .error halt => return .error halt
      | .ok found => return .ok (.record [("k", found.text)])
    let needle := Needle.single "k" (.number 0) rfl
    let needle' := Needle.single "k" (.number (-0)) rfl
    (∀ id, (grammar id).SessionOnly) ∧ (needle == needle') = true ∧
      invert grammar 1 needle ⟨0, "number"⟩ () = some (.complete ["0"], ()) ∧
      invert grammar 1 needle' ⟨0, "number"⟩ () = some (.complete ["-0"], ()) := by
  intro sign digit number grammar needle needle'
  refine ⟨?_, by decide +kernel, by decide +kernel, by decide +kernel⟩
  intro id reply
  rcases reply with halt | text | found | value
  · trivial
  · trivial
  · trivial
  · trivial

end Inversion

end TwoWay.Backward
