import TwoWay.Proofs.Backward.Unification

/-!
Inversions that visit the fields of the needle in any order. An inversion looks at its needle
only where a rule comes to a value, and there it goes through the fields one after another. Here
their order is a parameter of the whole inversion; an inversion as it is run takes them in the
order of their keys.

The order makes no difference to whether a value meets the needle, so until it is met an inversion
goes the same way in any order. Two inversions of one rule, with other orders or for other needles,
end alike when each value to which the one comes does the same to the draft in the other. Of two
orders for one needle this holds, unless the value takes fields with different texts from one slot.
-/

namespace TwoWay.Backward

open Body (Course Exchange)

variable {M : Type}

namespace Draft

variable {d d₁ d₂ : Draft} {needle : Needle} {bindings fields fields' : List (String × Value)}

theorem settleInOrder?_eq_none {value : Value} (horder : fields.Perm needle.fields) :
    d.settleInOrder? needle fields value = none ↔ d.settle? needle value = none := by
  rw [← Option.isSome_eq_false_iff.trans Option.isNone_iff_eq_none, isSome_settleInOrder? horder,
    Option.isSome_eq_false_iff, Option.isNone_iff_eq_none]

theorem settled_eq_of_agree (hspaced : d.Spaced) (hagree : Agree needle bindings)
    (horder : fields.Perm needle.fields) (horder' : fields'.Perm needle.fields)
    (h₁ : d.settleInOrder? needle fields (.map bindings) = some d₁)
    (h₂ : d.settleInOrder? needle fields' (.map bindings) = some d₂) : d₁ = d₂ := by
  obtain ⟨_, hvalue₁, hfills₁⟩ := settleInOrder?_fills hspaced horder h₁
  obtain ⟨_, hvalue₂, hfills₂⟩ := settleInOrder?_fills hspaced horder' h₂
  obtain rfl := Value.map.inj hvalue₁
  obtain rfl := Value.map.inj hvalue₂
  have hcomponents : d₁.components = d₂.components := by
    apply List.ext_getElem?
    intro i
    by_cases hnamed : ∃ field ∈ needle.fields, ∃ handle slot,
        bindings.lookup field.1 = some (.slot handle) ∧ d.slots[handle.index]? = some slot ∧
          slot.component = i
    · obtain ⟨field, hfield, handle, slot, hget, hslot, rfl⟩ := hnamed
      rw [hfills₁.shows_iff.2 hagree field hfield handle slot hget hslot,
        hfills₂.shows_iff.2 hagree field hfield handle slot hget hslot]
    · have hunnamed : ∀ field ∈ needle.fields, ∀ handle slot,
          bindings.lookup field.1 = some (.slot handle) →
            d.slots[handle.index]? = some slot → slot.component ≠ i :=
        fun field hfield handle slot hget hslot hcomponent =>
          hnamed ⟨field, hfield, handle, slot, hget, hslot, hcomponent⟩
      rw [hfills₁.others i hunnamed, hfills₂.others i hunnamed]
  obtain ⟨_, _, _, _, _, rfl⟩ := settleInOrder?_eq_some.1 h₁
  obtain ⟨_, _, _, _, _, rfl⟩ := settleInOrder?_eq_some.1 h₂
  exact congrArg (Draft.mk · d.slots true) hcomponents

/-- The order makes no difference to the draft that is left either, unless the value that settles it
takes fields with different texts from one slot. -/
theorem settleInOrder?_eq_settle? (hspaced : d.Spaced) (horder : fields.Perm needle.fields)
    (hagree : ∀ d', d.settle? needle (.map bindings) = some d' → Agree needle bindings) :
    d.settleInOrder? needle fields (.map bindings) = d.settle? needle (.map bindings) := by
  cases h₁ : d.settleInOrder? needle fields (.map bindings) with
  | none => exact ((settleInOrder?_eq_none horder).1 h₁).symm
  | some d₁ =>
      cases h₂ : d.settle? needle (.map bindings) with
      | none =>
          rw [(settleInOrder?_eq_none horder).2 h₂] at h₁
          cases h₁
      | some d₂ => rw [settled_eq_of_agree hspaced (hagree d₂ h₂) horder (.refl _) h₁ h₂]

end Draft

/-- How a rule ends when the fields of the needle are visited in the order of `fields`. -/
def Frame.finishInOrder (needle : Needle) (fields : List (String × Value)) (mark : Draft)
    (frame : Frame) (outcome : Outcome) : Ending × Draft :=
  if frame.draft.resolved then (.complete, frame.draft)
  else if frame.halted then (.failed, frame.draft.rollback mark)
  else
    match outcome with
    | .error _ => (.failed, frame.draft.rollback mark)
    | .ok .nil => (.unfinished, frame.draft)
    | .ok value =>
        match frame.draft.settleInOrder? needle fields value with
        | some draft => (.complete, draft)
        | none => (.failed, frame.draft.rollback mark)

/-- Inverts a rule from a draft, the fields of the needle visited in the order of `fields`
wherever a rule comes to a value. -/
def synthesizeInOrder (grammar : Grammar M) (needle : Needle) (fields : List (String × Value)) :
    (depth : Nat) → Runner M
  | 0, _, _, _ => none
  | depth + 1, r, draft, memory =>
      ((grammar r.id).run (session (synthesizeInOrder grammar needle fields depth))
          ⟨draft, false⟩ memory).map
        fun (outcome, frame, memory) =>
          ((frame.finishInOrder needle fields draft outcome).1,
            (frame.finishInOrder needle fields draft outcome).2, memory)

def invertInOrder (grammar : Grammar M) (depth : Nat) (needle : Needle)
    (fields : List (String × Value)) (r : Rule) (memory : M) : Option (Inversion × M) :=
  (synthesizeInOrder grammar needle fields depth r .empty memory).map
    fun (ending, draft, memory) => (.ofEnding ending draft, memory)

section Candidates

variable {run other : Runner M} {draft : Draft} {memory : M}

theorem tryCandidates_eq_of_rules {candidates : List Candidate}
    (hrules : ∀ {pre post q draft' memory'}, candidates = pre ++ .rule q :: post →
      Passed run pre draft memory draft' memory' →
        other q draft' memory' = run q draft' memory') :
    tryCandidates other candidates draft memory = tryCandidates run candidates draft memory := by
  induction candidates generalizing draft memory with
  | nil => rfl
  | cons c rest ih =>
      have hc : attempt other c draft memory = attempt run c draft memory := by
        cases c with
        | literal _ | pattern _ => rfl
        | rule q =>
            have hq : other q draft memory = run q draft memory :=
              hrules (List.nil_append (.rule q :: rest)).symm .nil
            simp only [attempt, hq]
      rw [tryCandidates_cons, tryCandidates_cons, hc]
      cases hfound : attempt run c draft memory with
      | none => rfl
      | some found =>
          obtain ⟨reply?, draft₁, memory₁⟩ := found
          cases reply? with
          | some reply => rfl
          | none =>
              exact ih fun hrest hpassed =>
                hrules (congrArg (c :: ·) hrest) (.cons hfound hpassed)

theorem session_eq_of_rules {node : Node} {frame : Frame}
    (hrules : ∀ {pre post q draft' memory'}, frame.draft.resolved = false →
      frame.halted = false → node.candidates = pre ++ .rule q :: post →
      Passed run pre frame.draft memory draft' memory' →
        other q draft' memory' = run q draft' memory') :
    session other node frame memory = session run node frame memory := by
  unfold session
  split
  · rfl
  · rename_i hopen
    split
    · rfl
    · rename_i hlive
      exact tryCandidates_eq_of_rules fun hnode hpassed =>
        hrules (Bool.eq_false_iff.2 hopen) (Bool.eq_false_iff.2 hlive) hnode hpassed

end Candidates

/-- Whether whatever rules come to without meeting the needle they come to by `other` too. -/
def Runner.AlikeUnmet (run other : Runner M) : Prop :=
  ∀ ⦃r draft memory ending draft' memory'⦄,
    run r draft memory = some (ending, draft', memory') → ending ≠ .complete →
      other r draft memory = some (ending, draft', memory')

def Runner.MeetsNeedle (run : Runner M) : Prop :=
  ∀ ⦃r draft memory draft' memory'⦄,
    run r draft memory = some (.complete, draft', memory') → draft'.resolved = true

section Unmet

variable {run other : Runner M} (halike : run.AlikeUnmet other)

include halike

theorem Passed.alike {pre : List Candidate} {draft draft' : Draft} {memory memory' : M}
    (hpre : Passed run pre draft memory draft' memory') :
    Passed other pre draft memory draft' memory' := by
  induction hpre with
  | nil => exact .nil
  | cons hc _ ih =>
      obtain ⟨r, rfl, hr⟩ := failed_of_attempt hc
      refine .cons ?_ ih
      simp only [attempt, halike hr (by decide)]

variable (hmeets : run.MeetsNeedle)

include hmeets

theorem attempt_alike {c : Candidate} {draft draft' : Draft} {memory memory' : M}
    {reply : Reply} (hunmet : draft'.resolved = false)
    (hc : attempt run c draft memory = some (some reply, draft', memory')) :
    attempt other c draft memory = some (some reply, draft', memory') := by
  cases c with
  | literal _ | pattern _ => exact hc
  | rule r =>
      obtain ⟨ending, hr, hreply⟩ := attempt_rule hc
      cases ending with
      | failed => cases hreply
      | complete =>
          rw [hmeets hr] at hunmet
          cases hunmet
      | unfinished =>
          rw [attempt_unfinished (halike hr (by decide)), ← hreply]
          rfl

theorem session_alike {node : Node} {frame frame' : Frame} {memory memory' : M} {reply : Reply}
    (hunmet : frame'.draft.resolved = false)
    (hreply : session run node frame memory = some (reply, frame', memory')) :
    session other node frame memory = some (reply, frame', memory') := by
  rcases session_cases hreply with ⟨hresolved, _, rfl, _⟩ | ⟨hopen, hhalted, rfl, rfl, rfl⟩ |
    ⟨hopen, hlive, pre, c, post, draft₁, memory₁, draft₂, hnode, hpre, hc, rfl⟩ |
    ⟨hopen, hlive, draft₁, hnode, rfl, rfl⟩
  · rw [hresolved] at hunmet
    cases hunmet
  · simp [session, hopen, hhalted]
  · exact session_of_attempt hopen hlive hnode (hpre.alike halike)
      (attempt_alike halike hmeets hunmet hc)
  · exact session_of_passed hopen hlive (hnode.alike halike)

theorem course_alike {body body' : Body M Outcome} {frame frame' : Frame} {memory memory' : M}
    {log : List (Exchange Frame M)}
    (course : Course (session run) body frame memory log body' frame' memory')
    (hunmet : frame'.draft.resolved = false) :
    Course (session other) body frame memory log body' frame' memory' := by
  induction course with
  | here => exact .here
  | load _ ih => exact .load (ih hunmet)
  | store _ ih => exact .store (ih hunmet)
  | @request node next frame frame₁ frame' memory memory₁ memory' reply log body' hreply hrest ih =>
      cases hmet : frame₁.draft.resolved with
      | true =>
          obtain ⟨rfl, _⟩ := (refuses_of_resolved hmet).course hrest
          rw [hmet] at hunmet
          cases hunmet
      | false => exact .request (session_alike halike hmeets hmet hreply) (ih hunmet)

end Unmet

section Finish

variable {needle needle' : Needle} {fields fields' : List (String × Value)} {mark draft' : Draft}
  {frame : Frame} {outcome : Outcome} {ending : Ending}

theorem finishInOrder_fields :
    frame.finishInOrder needle needle.fields mark outcome = frame.finish needle mark outcome :=
  rfl

theorem finishInOrder_of_resolved (hresolved : frame.draft.resolved = true) :
    frame.finishInOrder needle fields mark outcome = (.complete, frame.draft) := by
  simp [Frame.finishInOrder, hresolved]

theorem finishInOrder_of_settle {value : Value} (hopen : frame.draft.resolved = false)
    (hlive : frame.halted = false)
    (hsettle : frame.draft.settleInOrder? needle fields value = some draft') :
    frame.finishInOrder needle fields mark (.ok value) = (.complete, draft') := by
  obtain ⟨bindings, _, rfl, _⟩ := Draft.settleInOrder?_eq_some.1 hsettle
  simp [Frame.finishInOrder, hopen, hlive, hsettle]

theorem finishInOrder_eq
    (hsettles : ∀ {value}, frame.draft.resolved = false → frame.halted = false →
      outcome = .ok value → frame.draft.settleInOrder? needle' fields' value =
        frame.draft.settleInOrder? needle fields value) :
    frame.finishInOrder needle' fields' mark outcome =
      frame.finishInOrder needle fields mark outcome := by
  unfold Frame.finishInOrder
  split
  · rfl
  · rename_i hopen
    split
    · rfl
    · rename_i hlive
      cases outcome with
      | error halt => rfl
      | ok value =>
          have hsettle := hsettles (Bool.eq_false_iff.2 hopen) (Bool.eq_false_iff.2 hlive) rfl
          cases value with
          | nil => rfl
          | number _ | string _ | bool _ | list _ | map _ | slot _ => simp only [hsettle]

theorem resolved_of_finishInOrder
    (hfinish : frame.finishInOrder needle fields mark outcome = (.complete, draft')) :
    draft'.resolved = true := by
  unfold Frame.finishInOrder at hfinish
  split at hfinish
  · rename_i hresolved
    obtain ⟨_, rfl⟩ := Prod.mk.inj hfinish
    exact hresolved
  · split at hfinish
    · cases hfinish
    · split at hfinish
      · cases hfinish
      · cases hfinish
      · split at hfinish
        · rename_i draft hsettle
          obtain ⟨_, rfl⟩ := Prod.mk.inj hfinish
          obtain ⟨_, _, _, _, _, rfl⟩ := Draft.settleInOrder?_eq_some.1 hsettle
          rfl
        · cases hfinish

theorem finish_of_finishInOrder (horder : fields.Perm needle.fields)
    (hfinish : frame.finishInOrder needle fields mark outcome = (ending, draft'))
    (hunmet : ending ≠ .complete) :
    frame.draft.resolved = false ∧ frame.finish needle mark outcome = (ending, draft') := by
  cases hresolved : frame.draft.resolved with
  | true =>
      rw [finishInOrder_of_resolved hresolved] at hfinish
      exact absurd (congrArg Prod.fst hfinish).symm hunmet
  | false =>
      refine ⟨rfl, ?_⟩
      rw [← finishInOrder_fields, ← hfinish]
      apply finishInOrder_eq
      rintro value hopen hlive rfl
      cases hsettle : frame.draft.settleInOrder? needle fields value with
      | some settled =>
          rw [finishInOrder_of_settle hopen hlive hsettle] at hfinish
          exact absurd (congrArg Prod.fst hfinish).symm hunmet
      | none => exact (Draft.settleInOrder?_eq_none horder).1 hsettle

end Finish

section Inversion

variable {grammar : Grammar M} {needle needle' : Needle} {fields fields' : List (String × Value)}
  {depth : Nat} {r : Rule} {draft draft' : Draft} {memory memory' : M} {ending : Ending}

theorem synthesizeInOrder_succ_eq_some :
    synthesizeInOrder grammar needle fields (depth + 1) r draft memory =
        some (ending, draft', memory') ↔
      ∃ outcome frame,
        (grammar r.id).run (session (synthesizeInOrder grammar needle fields depth))
            ⟨draft, false⟩ memory = some (outcome, frame, memory') ∧
          frame.finishInOrder needle fields draft outcome = (ending, draft') := by
  simp only [synthesizeInOrder, Option.map_eq_some_iff, Prod.exists, Prod.mk.injEq]
  constructor
  · rintro ⟨outcome, frame, _, hbody, rfl, rfl, rfl⟩
    exact ⟨outcome, frame, hbody, rfl⟩
  · rintro ⟨outcome, frame, hbody, hfinish⟩
    obtain ⟨hending, hdraft⟩ := Prod.ext_iff.1 hfinish
    exact ⟨outcome, frame, memory', hbody, hending, hdraft, rfl⟩

theorem synthesizeInOrder_fields :
    synthesizeInOrder grammar needle needle.fields depth = synthesize grammar needle depth := by
  induction depth with
  | zero => rfl
  | succ depth ih =>
      funext r draft memory
      rw [synthesizeInOrder, synthesize_succ, ih]
      rfl

theorem synthesizeInOrder_meetsNeedle :
    Runner.MeetsNeedle (synthesizeInOrder grammar needle fields depth) := by
  intro r draft memory draft' memory' hrun
  cases depth with
  | zero => simp [synthesizeInOrder] at hrun
  | succ depth =>
      obtain ⟨outcome, frame, _, hfinish⟩ := synthesizeInOrder_succ_eq_some.1 hrun
      exact resolved_of_finishInOrder hfinish

/-- By induction on the depth: up to a point at which the needle is unmet a body has the same
course, and if it is unmet at the end then the rule ends alike. -/
theorem synthesizeInOrder_alikeUnmet (horder : fields.Perm needle.fields) :
    Runner.AlikeUnmet (synthesizeInOrder grammar needle fields depth)
      (synthesize grammar needle depth) := by
  induction depth with
  | zero =>
      intro r draft memory ending draft' memory' hrun
      simp [synthesizeInOrder] at hrun
  | succ depth ih =>
      intro r draft memory ending draft' memory' hrun hunmet
      obtain ⟨outcome, frame, hbody, hfinish⟩ := synthesizeInOrder_succ_eq_some.1 hrun
      obtain ⟨hopen, hown⟩ := finish_of_finishInOrder horder hfinish hunmet
      obtain ⟨log, course⟩ := Body.course_of_run hbody
      rw [synthesize_of_done (course_alike ih synthesizeInOrder_meetsNeedle course hopen), hown]

/-- Whether each value to which an inversion for `needle` comes does to the draft what it does
for `needle'`, with the fields of each in an order of its own. -/
def SettlesAlike (grammar : Grammar M) (needle : Needle) (fields : List (String × Value))
    (depth : Nat) (r : Rule) (draft : Draft) (memory : M) (needle' : Needle)
    (fields' : List (String × Value)) : Prop :=
  ∀ {left value}, Offers grammar needle depth r draft memory left value →
    left.settleInOrder? needle' fields' value = left.settleInOrder? needle fields value

/-- By induction on the depth at which a frame lies: the rules that it tries end alike, so its
body runs alike and comes to the same value. -/
theorem synthesizeInOrder_eq (horder : fields.Perm needle.fields)
    (halike : SettlesAlike grammar needle fields depth r draft memory needle' fields') {d : Nat}
    {q : Rule} {start : Draft} {memory₁ : M}
    (opens : Opens grammar needle depth r draft memory d q start memory₁) :
    synthesizeInOrder grammar needle' fields' d q start memory₁ =
      synthesizeInOrder grammar needle fields d q start memory₁ := by
  induction d generalizing q start memory₁ with
  | zero => rfl
  | succ d ih =>
      have hunmet : Runner.AlikeUnmet (synthesizeInOrder grammar needle fields d)
        (synthesize grammar needle d) := synthesizeInOrder_alikeUnmet horder
      have hbody : (grammar q.id).run (session (synthesizeInOrder grammar needle' fields' d))
            ⟨start, false⟩ memory₁ =
          (grammar q.id).run (session (synthesizeInOrder grammar needle fields d))
            ⟨start, false⟩ memory₁ := by
        refine Body.run_eq_of_course fun course => ?_
        refine session_eq_of_rules fun hopen hlive hnode hpassed => ?_
        -- While the needle is unmet the frame lies in the inversion in the needle's own order.
        have hcourse := course_alike hunmet synthesizeInOrder_meetsNeedle course hopen
        exact ih (.nested opens hcourse hopen hlive hnode (hpassed.alike hunmet))
      rw [synthesizeInOrder, synthesizeInOrder, hbody]
      cases hrun : (grammar q.id).run (session (synthesizeInOrder grammar needle fields d))
          ⟨start, false⟩ memory₁ with
      | none => rfl
      | some ended =>
          obtain ⟨outcome, frame, memory₂⟩ := ended
          obtain ⟨log, course⟩ := Body.course_of_run hrun
          have hfinish : Frame.finishInOrder needle' fields' start frame outcome =
              Frame.finishInOrder needle fields start frame outcome := by
            apply finishInOrder_eq
            rintro value hopen hlive rfl
            have hcourse := course_alike hunmet synthesizeInOrder_meetsNeedle course hopen
            obtain ⟨left, halted⟩ := frame
            obtain rfl : halted = false := hlive
            exact halike (.frame opens hcourse hopen)
          simp only [Option.map_some, hfinish]

theorem invertInOrder_fields :
    invertInOrder grammar depth needle needle.fields r memory =
      invert grammar depth needle r memory := by
  unfold invertInOrder invert
  rw [synthesizeInOrder_fields]

theorem settlesAlike_of_maps
    (hmaps : ∀ {left bindings},
      Offers grammar needle depth r draft memory left (.map bindings) →
        left.settleInOrder? needle' fields' (.map bindings) =
          left.settleInOrder? needle fields (.map bindings)) :
    SettlesAlike grammar needle fields depth r draft memory needle' fields' := by
  intro left value hoffers
  cases value with
  | map bindings => exact hmaps hoffers
  | nil | number _ | string _ | bool _ | list _ | slot _ => rfl

theorem invertInOrder_eq (horder : fields.Perm needle.fields)
    (halike : SettlesAlike grammar needle fields depth r .empty memory needle' fields') :
    invertInOrder grammar depth needle' fields' r memory =
      invertInOrder grammar depth needle fields r memory := by
  unfold invertInOrder
  rw [synthesizeInOrder_eq horder halike .own]

end Inversion

end TwoWay.Backward
