import TwoWay.Proofs.Backward.Finality
import TwoWay.Proofs.Mismatch

/-!
Where the components of an inversion come from. Of the answers that were given on its
way those last that were not given within a rule that failed. They are listed in the
order of asking, and with them what was put out for each: the text of a literal, or a
blank component where a pattern takes input. Nothing else is ever put out, and nothing
that lasts is taken back, so the two lists agree place by place.

When a value settles the draft it fills the blanks that it names, each with the text of a
field that names it, and touches no other component.
-/

namespace TwoWay.Backward

open Body (Course Exchange Linked)

variable {M : Type}

structure Given where
  candidate : Candidate
  answer : Answer

namespace Given

def ofReply (c : Candidate) : Reply → List Given
  | .ok answer => [⟨c, answer⟩]
  | .error _ => []

/-- Whether the answer is to a literal or to a pattern that takes input. -/
def isEntry (g : Given) : Bool :=
  match g.candidate with
  | .literal _ => true
  | .pattern p => !p.zeroWidth
  | .rule _ => false

theorem filter_ofReply_rule (q : Rule) (reply : Reply) :
    (ofReply (.rule q) reply).filter isEntry = [] := by
  cases reply <;> rfl

theorem placeholder_inj {p p' : Pattern} {handle handle' : Handle} :
    (⟨.pattern p, .pattern (.placeholder handle)⟩ : Given) =
        ⟨.pattern p', .pattern (.placeholder handle')⟩ ↔ p = p' ∧ handle = handle' := by
  simp [Pattern.Match.placeholder]

inductive PutOut : Given → String → Prop where
  | literal {text : String} : PutOut ⟨.literal text, .literal text⟩ text
  | pattern {p : Pattern} {handle : Handle} :
      PutOut ⟨.pattern p, .pattern (.placeholder handle)⟩ ""

/-- What stands in the component of an answer after a value with the fields `bindings`
has settled the draft. -/
inductive Stands (needle : Needle) (bindings : List (String × Value)) : Given → String → Prop where
  | literal {text : String} : Stands needle bindings ⟨.literal text, .literal text⟩ text
  | unnamed {p : Pattern} {handle : Handle} :
      (∀ field ∈ needle.fields, bindings.lookup field.1 ≠ some (.slot handle)) →
      Stands needle bindings ⟨.pattern p, .pattern (.placeholder handle)⟩ ""
  | named {p : Pattern} {handle : Handle} {field : String × Value} {text : String} :
      field ∈ needle.fields → bindings.lookup field.1 = some (.slot handle) →
      field.2.needleText? = some text →
      Stands needle bindings ⟨.pattern p, .pattern (.placeholder handle)⟩ text

end Given

/-- A candidate decides an exchange: it is tried from `draft`, those before it having
failed, and makes the reply. -/
inductive Decided (run : Runner M) (e : Exchange Frame M) (c : Candidate) (draft : Draft)
    (memory : M) : Prop where
  | intro {pre post : List Candidate} {draft' : Draft} {memory' : M} :
      e.before.draft.resolved = false → e.before.halted = false →
      e.node.candidates = pre ++ c :: post →
      Passed run pre e.before.draft e.memory draft memory →
      attempt run c draft memory = some (some e.reply, draft', memory') →
      Decided run e c draft memory

theorem Decided.leaves {run : Runner M} (hatomic : run.Atomic) {e : Exchange Frame M}
    {c : Candidate} {draft : Draft} {memory memory' : M} (h : Decided run e c draft memory)
    (hreply : session run e.node e.before e.memory = some (e.reply, e.after, memory')) :
    attempt run c e.before.draft memory = some (some e.reply, e.after.draft, memory') := by
  obtain ⟨hopen, hlive, hnode, hpre, hc⟩ := h
  obtain rfl := hpre.draft_eq hatomic hopen
  rw [session_of_attempt hopen hlive hnode hpre hc] at hreply
  simp only [Option.some.injEq, Prod.mk.injEq, true_and] at hreply
  obtain ⟨hafter, rfl⟩ := hreply
  rw [hc, ← hafter]

/-- The answers that last of those given in some exchanges of a frame and within the rules
that were tried for them, in the order of asking. A rule that decides a request has not
failed; with its answer last those that were given within it. Rules that failed before
leave none, nor does a request that is turned away. -/
inductive Lasting (grammar : Grammar M) (needle : Needle) :
    (depth : Nat) → List (Exchange Frame M) → List Given → Prop where
  | nil {depth : Nat} : Lasting grammar needle depth [] []
  | own {depth : Nat} {e : Exchange Frame M} {log : List (Exchange Frame M)} {c : Candidate}
      {draft : Draft} {memory : M} {given : List Given} :
      Decided (synthesize grammar needle depth) e c draft memory → (∀ q, c ≠ .rule q) →
      Lasting grammar needle depth log given →
      Lasting grammar needle depth (e :: log) (Given.ofReply c e.reply ++ given)
  | rule {depth : Nat} {e : Exchange Frame M} {log inner : List (Exchange Frame M)} {q : Rule}
      {draft : Draft} {memory memory' : M} {outcome : Outcome} {frame : Frame}
      {within given : List Given} :
      Decided (synthesize grammar needle (depth + 1)) e (.rule q) draft memory →
      Course (session (synthesize grammar needle depth)) (grammar q.id) ⟨draft, false⟩ memory
        inner (.done outcome) frame memory' →
      Lasting grammar needle depth inner within →
      Lasting grammar needle (depth + 1) log given →
      Lasting grammar needle (depth + 1) (e :: log)
        (within ++ (Given.ofReply (.rule q) e.reply ++ given))
  | refused {depth : Nat} {e : Exchange Frame M} {log : List (Exchange Frame M)}
      {given : List Given} :
      e.reply = .error .mismatch ∨ e.before.draft.resolved = true →
      Lasting grammar needle depth log given →
      Lasting grammar needle depth (e :: log) given

section Exists

variable {grammar : Grammar M} {needle : Needle} {depth : Nat}

def AllLasting (grammar : Grammar M) (needle : Needle) (depth : Nat) : Prop :=
  ∀ ⦃body body' : Body M Outcome⦄ ⦃frame frame' : Frame⦄ ⦃memory memory' : M⦄
    ⦃log : List (Exchange Frame M)⦄,
    Course (session (synthesize grammar needle depth)) body frame memory log body' frame'
      memory' →
    ∃ given, Lasting grammar needle depth log given

theorem allLasting_of_inner (hinner : ∀ d, depth = d + 1 → AllLasting grammar needle d) :
    AllLasting grammar needle depth := by
  intro body body' frame frame' memory memory' log course
  induction course with
  | here => exact ⟨[], .nil⟩
  | @request node next frame frame₁ frame' memory memory₁ memory' reply log body' hreply _ ih =>
      obtain ⟨given, hgiven⟩ := ih
      rcases session_cases hreply with ⟨hresolved, _⟩ | ⟨_, _, rfl, _⟩ |
        ⟨hopen, hlive, pre, c, post, draft₂, memory₂, draft₃, hnode, hpre, hc, _⟩ |
        ⟨_, _, _, _, rfl, _⟩
      · exact ⟨given, .refused (Or.inr hresolved) hgiven⟩
      · exact ⟨given, .refused (Or.inl rfl) hgiven⟩
      · have hdecided : Decided (synthesize grammar needle depth)
            ⟨node, frame, memory, reply, frame₁⟩ c draft₂ memory₂ :=
          .intro hopen hlive hnode hpre hc
        rcases attempt_cases hc with ⟨_, rfl, _⟩ | ⟨_, rfl, _⟩ | ⟨_, rfl, _⟩ |
          ⟨q, ending, rfl, hq, _⟩
        · exact ⟨_, .own hdecided (fun _ heq => by cases heq) hgiven⟩
        · exact ⟨_, .own hdecided (fun _ heq => by cases heq) hgiven⟩
        · exact ⟨_, .own hdecided (fun _ heq => by cases heq) hgiven⟩
        · cases depth with
          | zero => simp [synthesize] at hq
          | succ d =>
              obtain ⟨outcome, frame, hbody, _⟩ := synthesize_succ_eq_some.1 hq
              obtain ⟨inner, hcourse⟩ := Body.course_of_run hbody
              obtain ⟨within, hwithin⟩ := hinner d rfl hcourse
              exact ⟨_, .rule hdecided hcourse hwithin hgiven⟩
      · exact ⟨given, .refused (Or.inl rfl) hgiven⟩
  | load _ ih => exact ih
  | store _ ih => exact ih

theorem allLasting (grammar : Grammar M) (needle : Needle) (depth : Nat) :
    AllLasting grammar needle depth := by
  induction depth with
  | zero => exact allLasting_of_inner fun d hd => absurd hd (Nat.succ_ne_zero d).symm
  | succ depth ih =>
      refine allLasting_of_inner fun d hd => ?_
      obtain rfl : depth = d := Nat.succ.inj hd
      exact ih

theorem Lasting.eq_nil {log : List (Exchange Frame M)} {given : List Given}
    (h : Lasting grammar needle depth log given) {run : Runner M} {frame frame' : Frame}
    (hlinked : Linked (session run) frame log frame') (hresolved : frame.draft.resolved = true) :
    given = [] := by
  induction h generalizing frame with
  | nil => rfl
  | own hdecided _ _ _ | rule hdecided _ _ _ _ =>
      obtain ⟨hopen, _⟩ := hdecided
      cases hlinked
      simp [hresolved] at hopen
  | refused _ _ ih =>
      cases hlinked with
      | cons hreply hrest =>
          rw [refuses_of_resolved hresolved] at hreply
          simp only [Option.some.injEq, Prod.mk.injEq] at hreply
          obtain ⟨_, rfl, _⟩ := hreply
          exact ih hrest hresolved

end Exists

section Concat

variable {α : Type} {l : List α} {a b : α} {i : Nat}

theorem getElem?_append_of_eq_some (h : l[i]? = some b) (rest : List α) :
    (l ++ rest)[i]? = some b := by
  obtain ⟨hlt, _⟩ := List.getElem?_eq_some_iff.1 h
  rw [List.getElem?_append_left hlt, h]

theorem getElem?_concat_cases (h : (l ++ [a])[i]? = some b) :
    l[i]? = some b ∨ (i = l.length ∧ a = b) := by
  rcases Nat.lt_or_ge i l.length with hlt | hge
  · rw [List.getElem?_append_left hlt] at h
    exact Or.inl h
  · rw [List.getElem?_append_right hge, List.getElem?_singleton] at h
    split at h
    · exact Or.inr ⟨by omega, Option.some.inj h⟩
    · cases h

end Concat

/-- The components of a draft are what was put out with some answers, and its slots are
those of the patterns among these. -/
structure Draft.Lists (d : Draft) (entries : List Given) : Prop where
  components : List.Forall₂ Given.PutOut entries d.components
  slots : ∀ (j : Nat) (slot : Slot), d.slots[j]? = some slot →
    entries[slot.component]? = some ⟨.pattern slot.pattern, .pattern (.placeholder ⟨j⟩)⟩
  patterns : ∀ (i : Nat) (p : Pattern) (handle : Handle),
    entries[i]? = some ⟨.pattern p, .pattern (.placeholder handle)⟩ →
    d.slots[handle.index]? = some ⟨i, p⟩

namespace Draft.Lists

variable {d settled : Draft} {entries : List Given} {needle : Needle}

theorem empty : Draft.empty.Lists [] := ⟨.nil, by simp [Draft.empty], by simp⟩

theorem push (h : d.Lists entries) (text : String) :
    (d.push text).Lists (entries ++ [⟨.literal text, .literal text⟩]) := by
  refine ⟨List.rel_append h.components (.cons .literal .nil), ?_, ?_⟩
  · intro j slot hslot
    exact getElem?_append_of_eq_some (h.slots j slot hslot) _
  · intro i p handle hentry
    rcases getElem?_concat_cases hentry with hold | ⟨_, hnew⟩
    · exact h.patterns i p handle hold
    · cases hnew

theorem reserve (h : d.Lists entries) (p : Pattern) :
    (d.reserve p).2.Lists
      (entries ++ [⟨.pattern p, .pattern (.placeholder (d.reserve p).1)⟩]) := by
  have hlength : entries.length = d.components.length := h.components.length_eq
  refine ⟨List.rel_append h.components (.cons .pattern .nil), ?_, ?_⟩
  · intro j slot hslot
    rcases getElem?_concat_cases hslot with hold | ⟨rfl, rfl⟩
    · exact getElem?_append_of_eq_some (h.slots j slot hold) _
    · rw [← hlength]
      exact List.getElem?_concat_length
  · intro i p' handle hentry
    rcases getElem?_concat_cases hentry with hold | ⟨rfl, hnew⟩
    · exact getElem?_append_of_eq_some (h.patterns i p' handle hold) _
    · obtain ⟨rfl, rfl⟩ := Given.placeholder_inj.1 hnew
      rw [hlength]
      exact List.getElem?_concat_length

theorem attempt {run : Runner M} {c : Candidate} {draft' : Draft} {memory memory' : M}
    {reply : Reply} (h : d.Lists entries) (hown : ∀ q, c ≠ .rule q) (hopen : d.resolved = false)
    (hc : attempt run c d memory = some (some reply, draft', memory')) :
    draft'.resolved = false ∧
      draft'.Lists (entries ++ (Given.ofReply c reply).filter Given.isEntry) := by
  rcases attempt_cases hc with ⟨text, rfl, hreply, rfl, _⟩ | ⟨p, rfl, hzero, hreply, rfl, _⟩ |
    ⟨p, rfl, htakes, hreply, rfl, _⟩ | ⟨q, _, rfl, _⟩
  · obtain rfl := Option.some.inj hreply
    exact ⟨hopen, h.push text⟩
  · obtain rfl := Option.some.inj hreply
    refine ⟨hopen, ?_⟩
    simpa [Given.ofReply, Given.isEntry, hzero] using h
  · obtain rfl := Option.some.inj hreply
    refine ⟨hopen, ?_⟩
    simpa [Given.ofReply, Given.isEntry, htakes] using h.reserve p
  · exact absurd rfl (hown q)

/-- A value that settles a draft leaves each component as it was put out that is no blank
or that no field names. -/
theorem kept (h : d.Lists entries) {bindings : List (String × Value)}
    (hfills : Fills d needle bindings settled.components) {i : Nat}
    (hunnamed : ∀ p handle, entries[i]? = some ⟨.pattern p, .pattern (.placeholder handle)⟩ →
      ∀ field ∈ needle.fields, bindings.lookup field.1 ≠ some (.slot handle)) :
    settled.components[i]? = d.components[i]? := by
  refine hfills.others i ?_
  rintro field hfield ⟨index⟩ slot hnamed hslot rfl
  exact hunnamed slot.pattern ⟨index⟩ (h.slots index slot hslot) field hfield hnamed

theorem stands (h : d.Lists entries) {bindings : List (String × Value)}
    (hfills : Fills d needle bindings settled.components)
    (hlength : settled.components.length = d.components.length) :
    List.Forall₂ (Given.Stands needle bindings) entries settled.components := by
  have hput := List.forall₂_iff_get.1 h.components
  refine List.forall₂_iff_get.2 ⟨hput.1.trans hlength.symm, ?_⟩
  intro i hi hsettled
  have hold : i < d.components.length := hlength ▸ hsettled
  have hentry : entries[i]? = some (entries.get ⟨i, hi⟩) := List.getElem?_eq_getElem hi
  have hbefore : d.components[i]? = some (d.components.get ⟨i, hold⟩) :=
    List.getElem?_eq_getElem hold
  have hafter : settled.components[i]? = some (settled.components.get ⟨i, hsettled⟩) :=
    List.getElem?_eq_getElem hsettled
  have hputi := hput.2 i hi hold
  -- What stands at the place is a variable from here on, and is known by its equations.
  generalize entries.get ⟨i, hi⟩ = g at hentry hputi ⊢
  generalize d.components.get ⟨i, hold⟩ = before at hbefore hputi
  generalize settled.components.get ⟨i, hsettled⟩ = after at hafter ⊢
  cases hputi with
  | literal =>
      have hkept : settled.components[i]? = d.components[i]? := by
        refine h.kept hfills ?_
        intro p handle hpattern
        rw [hentry] at hpattern
        cases hpattern
      rw [hafter, hbefore] at hkept
      obtain rfl := Option.some.inj hkept
      exact .literal
  | @pattern p handle =>
      by_cases hnames : ∃ field ∈ needle.fields, bindings.lookup field.1 = some (.slot handle)
      · obtain ⟨field, hfield, hnamed⟩ := hnames
        obtain ⟨shown, hshown, hsame, hstands⟩ :=
          hfills.filled hfield hnamed (h.patterns i p handle hentry)
        exact .named hshown hsame (hstands.symm.trans hafter)
      · have hunnamed : ∀ field ∈ needle.fields, bindings.lookup field.1 ≠ some (.slot handle) :=
          fun field hfield hnamed => hnames ⟨field, hfield, hnamed⟩
        have hkept : settled.components[i]? = d.components[i]? := by
          refine h.kept hfills ?_
          intro p' handle' hpattern
          obtain ⟨_, rfl⟩ := Given.placeholder_inj.1 (Option.some.inj (hentry.symm.trans hpattern))
          exact hunnamed
        rw [hafter, hbefore] at hkept
        obtain rfl := Option.some.inj hkept
        exact .unnamed hunnamed

end Draft.Lists

/-- Whether the output of a draft is accounted for by some answers: it is what was put
out with them, or comes of that by a value that has settled it in a frame of the
inversion. -/
def Accounts (grammar : Grammar M) (needle : Needle) (depth : Nat) (r : Rule) (draft : Draft)
    (memory : M) (d : Draft) (entries : List Given) : Prop :=
  (d.resolved = false ∧ d.Lists entries) ∨
    ∃ left value, Settles grammar needle depth r draft memory left value d ∧ left.Lists entries

section Walk

variable {grammar : Grammar M} {needle : Needle} {depth : Nat} {r : Rule} {draft : Draft}
  {memory : M}

theorem Accounts.lists {d : Draft} {entries : List Given}
    (h : Accounts grammar needle depth r draft memory d entries) (hopen : d.resolved = false) :
    d.Lists entries := by
  rcases h with ⟨_, hlists⟩ | ⟨left, value, ⟨_, _, _, _, _, hsettle⟩, _⟩
  · exact hlists
  · rw [Draft.settle?_resolved hsettle] at hopen
    cases hopen

theorem Accounts.finish {d : Nat} {q : Rule} {start draft' : Draft} {memory₁ memory₂ : M}
    {log : List (Exchange Frame M)} {outcome : Outcome} {frame : Frame} {ending : Ending}
    {entries : List Given}
    (h : Accounts grammar needle depth r draft memory frame.draft entries)
    (opens : Opens grammar needle depth r draft memory (d + 1) q start memory₁)
    (course : Course (session (synthesize grammar needle d)) (grammar q.id) ⟨start, false⟩ memory₁
      log (.done outcome) frame memory₂)
    (hfinish : frame.finish needle start outcome = (ending, draft'))
    (hpassed : ending ≠ .failed) :
    Accounts grammar needle depth r draft memory draft' entries := by
  cases hresolved : frame.draft.resolved with
  | true =>
      rw [finish_of_resolved hresolved] at hfinish
      obtain rfl := congrArg Prod.snd hfinish
      exact h
  | false =>
      rcases finish_cases hresolved hfinish with ⟨hfailed, _⟩ | ⟨_, _, _, rfl⟩ |
        ⟨hlive, _, value, hvalue, rfl, hsettle⟩
      · exact absurd hfailed hpassed
      · exact h
      · obtain ⟨left, halted⟩ := frame
        obtain rfl : halted = false := hlive
        have hanswered := answered_of_live (synthesize_atomic grammar needle d) course hresolved rfl
        have hsettles : Settles grammar needle depth r draft memory left value draft' :=
          .frame opens course hanswered hvalue hresolved hsettle
        exact Or.inr ⟨left, value, hsettles, h.lists hresolved⟩

/-- By induction on the answers that last. Each puts out what stands for it, at the end;
a rule that decides a request has put out all that lasts within it, and once it completes
nothing more is put out. -/
theorem accounts_of_lasting {d : Nat} {log : List (Exchange Frame M)} {given : List Given}
    (h : Lasting grammar needle d log given) :
    ∀ {q : Rule} {start : Draft} {memory₁ memory₂ memory₃ : M} {pre : List (Exchange Frame M)}
      {body body' : Body M Outcome} {frame frame' : Frame} {entries : List Given},
      Opens grammar needle depth r draft memory (d + 1) q start memory₁ →
      Course (session (synthesize grammar needle d)) (grammar q.id) ⟨start, false⟩ memory₁ pre
        body frame memory₂ →
      Course (session (synthesize grammar needle d)) body frame memory₂ log body' frame' memory₃ →
      frame.draft.resolved = false → frame.draft.Lists entries →
      Accounts grammar needle depth r draft memory frame'.draft
        (entries ++ given.filter Given.isEntry) := by
  induction h with
  | nil =>
      intro q start memory₁ memory₂ memory₃ pre body body' frame frame' entries _ _ course hopen
        hlists
      cases course.linked
      exact Or.inl ⟨hopen, by simpa using hlists⟩
  | @own d e log c draft₁ memory₄ given hdecided hown _ ih =>
      intro q start memory₁ memory₂ memory₃ pre body body' frame frame' entries opens before course
        hopen hlists
      obtain ⟨next, memory₅, rfl, hreach, hreply, hrest⟩ := course.uncons
      have hc := hdecided.leaves (synthesize_atomic grammar needle d) hreply
      obtain ⟨hopen', hlists'⟩ := hlists.attempt hown hopen hc
      have hbefore := (before.trans hreach).trans (.request hreply .here)
      have haccounts := ih opens hbefore hrest hopen' hlists'
      simpa only [List.filter_append, List.append_assoc] using haccounts
  | @rule d e log inner q' draft₁ memory₄ memory₅ outcome frame₁ within given hdecided hinner _
      hrest ihinner ih =>
      intro q start memory₁ memory₂ memory₃ pre body body' frame frame' entries opens before course
        hopen hlists
      obtain ⟨next, memory₆, rfl, hreach, hreply, hafterwards⟩ := course.uncons
      have hc := hdecided.leaves (synthesize_atomic grammar needle (d + 1)) hreply
      obtain ⟨_, hlive, hnode, hpre, _⟩ := hdecided
      obtain rfl := hpre.draft_eq (synthesize_atomic grammar needle (d + 1)) hopen
      have opens' := opens.nested (before.trans hreach) hopen hlive hnode hpre
      have hwithin := ihinner opens' .here hinner hopen hlists
      obtain ⟨ending, hended, hheard⟩ := attempt_rule hc
      rw [synthesize_of_done hinner, Option.some.injEq, Prod.mk.injEq, Prod.mk.injEq] at hended
      obtain ⟨hending, hleft, _⟩ := hended
      have hpassed : ending ≠ .failed := by
        rintro rfl
        cases hheard
      -- The rule leaves what its frame has put out, settled if its own value does that.
      have haccounts := hwithin.finish opens' hinner (Prod.ext hending hleft) hpassed
      have hbefore := (before.trans hreach).trans (.request hreply .here)
      have hunlisted : (Given.ofReply (.rule q') e.reply).filter Given.isEntry = [] :=
        Given.filter_ofReply_rule q' e.reply
      simp only [List.filter_append, hunlisted, ← List.append_assoc, List.append_nil]
      cases hresolved : e.after.draft.resolved with
      | false => exact ih opens hbefore hafterwards hresolved (haccounts.lists hresolved)
      | true =>
          -- What the body asks for after that is refused, so nothing is added.
          obtain rfl := frame_eq_of_over hafterwards (Or.inl hresolved)
          obtain rfl := hrest.eq_nil hafterwards.linked hresolved
          simpa using haccounts
  | refused hrefused _ ih =>
      intro q start memory₁ memory₂ memory₃ pre body body' frame frame' entries opens before course
        hopen hlists
      obtain ⟨next, memory₆, rfl, hreach, hreply, hrest⟩ := course.uncons
      have hmismatch := hrefused.resolve_right (by simp [hopen])
      have hhalted := hreply
      rw [hmismatch] at hhalted
      obtain ⟨_, hafter⟩ := halted_of_mismatch (synthesize_atomic grammar needle _) hhalted
      have hbefore := (before.trans hreach).trans (.request hreply .here)
      exact ih opens hbefore hrest (by simpa [hafter] using hopen) (by simpa [hafter] using hlists)

end Walk

/-- Where the output of an inversion comes from. The answers that last are found along the course of
its body. The components are what was put out with these, in the order of asking: a text for each
literal, a blank for each pattern that takes input. If the needle is met, the value that settled
the draft has filled the blanks that it names, each with the text of a field that names it. -/
theorem output_provenance {grammar : Grammar M} {needle : Needle} {d : Nat} {r : Rule}
    {memory memory' : M} {outcome : Inversion}
    (hinvert : invert grammar (d + 1) needle r memory = some (outcome, memory')) :
    ∃ log ended frame,
      Course (session (synthesize grammar needle d)) (grammar r.id) ⟨.empty, false⟩ memory log
        (.done ended) frame memory' ∧
      (∃ given, Lasting grammar needle d log given) ∧
      ∀ given, Lasting grammar needle d log given →
        (∀ components, outcome = .unfinished components →
          List.Forall₂ Given.PutOut (given.filter Given.isEntry) components) ∧
        (∀ components, outcome = .complete components →
          ∃ left bindings settled,
            Settles grammar needle (d + 1) r .empty memory left (.map bindings) settled ∧
            settled.components = components ∧
            List.Forall₂ (Given.Stands needle bindings) (given.filter Given.isEntry)
              components) := by
  obtain ⟨⟨ending, draft, memory₁⟩, hended, houtcome⟩ := Option.map_eq_some_iff.1 hinvert
  obtain ⟨rfl, rfl⟩ := Prod.mk.inj houtcome
  obtain ⟨ended, frame, hbody, hfinish⟩ := synthesize_succ_eq_some.1 hended
  obtain ⟨log, course⟩ := Body.course_of_run hbody
  refine ⟨log, ended, frame, course, allLasting grammar needle d course, ?_⟩
  intro given hgiven
  have hframe := accounts_of_lasting hgiven .own .here course rfl Draft.Lists.empty
  rw [List.nil_append] at hframe
  constructor
  · intro components hunfinished
    cases ending with
    | complete => cases hunfinished
    | failed => cases hunfinished
    | unfinished =>
        obtain rfl := Inversion.unfinished.inj hunfinished
        have haccounts := hframe.finish .own course hfinish (by decide)
        have hkeeps : draft.Keeps .empty := synthesize_atomic grammar needle (d + 1) rfl hended
        exact (haccounts.lists hkeeps.live).components
  · intro components hcomplete
    cases ending with
    | unfinished => cases hcomplete
    | failed => cases hcomplete
    | complete =>
        obtain rfl := Inversion.complete.inj hcomplete
        have hresolved : draft.resolved = true :=
          synthesize_atomic grammar needle (d + 1) rfl hended
        rcases hframe.finish .own course hfinish (by decide) with ⟨hopen, _⟩ |
          ⟨left, value, hsettles, hlists⟩
        · rw [hresolved] at hopen
          cases hopen
        · have hsettle := hsettles.settle?_eq
          obtain ⟨bindings, rfl, hfills⟩ :=
            Draft.settle?_fills (hsettles.reserved Draft.reserved_empty) hsettle
          exact ⟨left, bindings, draft, hsettles, rfl,
            hlists.stands hfills (Draft.length_settle? hsettle)⟩

/-- A rule that puts out a text and reserves a component before it fails, one that stays
unfinished beside a pattern that takes no input, and a digit that is found in the needle.
Nothing is left of the rule that failed. -/
theorem output_provenance_branches :
    let digit : Pattern :=
      Standard.anchored "^[0-9]" (.seq (.look .startText) (.chars (.interval '0' '9')))
    let grammar : Grammar Unit := fun
      | 0 => do
          let _ ← Body.ask (.literal "<")
          let _ ← Body.ask (.choice [.rule ⟨1, "failing"⟩, .rule ⟨2, "unfinished"⟩])
          match ← Body.pattern digit with
          | .error halt => return .error halt
          | .ok found =>
              let _ ← Body.ask (.literal ">")
              return .ok (.record [("a", found.text)])
      | 1 => do
          let _ ← Body.ask (.literal "x")
          let _ ← Body.ask (.pattern digit)
          return .error (.rejected "no")
      | _ => Standard.sequence [.literal "-", .pattern digit.asZeroWidth]
    let needle := Needle.single "a" (.string "1") rfl
    invert grammar 2 needle ⟨0, "outer"⟩ () = some (.complete ["<", "-", "1", ">"], ()) ∧
      ∃ log given left bindings settled, Lasting grammar needle 1 log given ∧
        Settles grammar needle 2 ⟨0, "outer"⟩ .empty () left (.map bindings) settled ∧
        settled.components = ["<", "-", "1", ">"] ∧
        List.Forall₂ (Given.Stands needle bindings) (given.filter Given.isEntry)
          ["<", "-", "1", ">"] := by
  intro digit grammar needle
  have hinvert : invert grammar 2 needle ⟨0, "outer"⟩ () =
      some (.complete ["<", "-", "1", ">"], ()) := by decide +kernel
  obtain ⟨log, _, _, _, ⟨given, hgiven⟩, hcomponents⟩ := output_provenance hinvert
  obtain ⟨left, bindings, settled, hsettles, hshown, hstands⟩ :=
    (hcomponents given hgiven).2 _ rfl
  exact ⟨hinvert, log, given, left, bindings, settled, hgiven, hsettles, hshown, hstands⟩

end TwoWay.Backward
