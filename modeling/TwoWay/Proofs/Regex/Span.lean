import TwoWay.Pattern

/-!
Where matches lie. A search moves through the text by single characters, so
every position it comes to is a position of the text, and a match ends no
earlier than it begins. A pattern that matches at the front of a text therefore
takes no more characters than there are, and those it takes are the text of
its match.
-/

namespace TwoWay.Regex

structure Cursor.In (text : List Char) (c : Cursor) : Prop where
  le : c.offset ≤ text.length
  before : c.before = (text.take c.offset).getLast?
  rest : c.rest = text.drop c.offset

theorem Cursor.in_start (text : List Char) : Cursor.In text ⟨0, none, text⟩ :=
  ⟨Nat.zero_le _, rfl, rfl⟩

theorem Cursor.in_stop (text : List Char) : (Cursor.stop text).In text :=
  ⟨Nat.le_refl _, by simp [Cursor.stop], by simp [Cursor.stop]⟩

/-- A position is told by how many characters lie before it. -/
theorem Cursor.In.eq {text : List Char} {c c' : Cursor} (hin : c.In text) (hin' : c'.In text)
    (hoffset : c.offset = c'.offset) : c = c' := by
  have hbefore : c.before = c'.before := by rw [hin.before, hin'.before, hoffset]
  have hrest : c.rest = c'.rest := by rw [hin.rest, hin'.rest, hoffset]
  cases c
  cases c'
  simp only [Cursor.mk.injEq]
  exact ⟨hoffset, hbefore, hrest⟩

theorem Cursor.In.next {text rest : List Char} {c : Cursor} {d : Char}
    (hin : c.In text) (hrest : c.rest = d :: rest) :
    Cursor.In text ⟨c.offset + 1, some d, rest⟩ := by
  have hdrop : text.drop c.offset = d :: rest := hin.rest.symm.trans hrest
  have hlt : c.offset < text.length := by
    have hlength := congrArg List.length hdrop
    simp only [List.length_drop, List.length_cons] at hlength
    omega
  refine ⟨hlt, ?_, ?_⟩
  · have hnext : text[c.offset]? = some d := by
      rw [← List.head?_drop, hdrop, List.head?_cons]
    rw [List.take_add_one, hnext]
    simp
  · have htail := congrArg List.tail hdrop
    rw [List.tail_drop] at htail
    exact htail.symm

namespace Matcher

/-- Whether all that a matcher finds from a position ends as `P` says. -/
def Ends (P : Cursor → Cursor → Prop) (m : Matcher) : Prop :=
  ∀ ⦃c groups tried stop groups' tried'⦄,
    m c groups tried = (some (stop, groups'), tried') → P c stop

/-- Whether `P` holds at a position where it holds at the next one. -/
def StepsBack (P : Cursor → Cursor → Prop) : Prop :=
  ∀ ⦃c d rest stop⦄, c.rest = d :: rest → P ⟨c.offset + 1, some d, rest⟩ stop → P c stop

variable {P : Cursor → Cursor → Prop} {m first second next : Matcher}

theorem ends_fail : Ends P fail := by
  intro c groups tried stop groups' tried' h
  simp [fail] at h

theorem Ends.once (hm : Ends P m) (path : List Nat) : Ends P (once path m) := by
  intro c groups tried stop groups' tried' h
  unfold Matcher.once at h
  split at h
  · simp at h
  · exact hm h

theorem Ends.orElse (hfirst : Ends P first) (hsecond : Ends P second) :
    Ends P (orElse first second) := by
  intro c groups tried stop groups' tried' h
  unfold Matcher.orElse at h
  split at h
  · rename_i found tried₁ heq
    rw [h] at heq
    exact hfirst heq
  · exact hsecond h

theorem Ends.choose (hfirst : Ends P first) (hsecond : Ends P second) (greedy : Bool) :
    Ends P (choose greedy first second) := by
  cases greedy with
  | false => exact hsecond.orElse hfirst
  | true => exact hfirst.orElse hsecond

theorem ends_star {round : Matcher → Matcher} (hround : ∀ n, Ends P n → Ends P (round n))
    (hnext : Ends P next) (path : List Nat) (greedy : Bool) (fuel : Nat) :
    Ends P (star round path greedy next fuel) := by
  induction fuel with
  | zero => exact ends_fail
  | succ fuel ih => exact ((hround _ ih).choose hnext greedy).once path

theorem ends_plus {round : Matcher → Matcher} (hround : ∀ n, Ends P n → Ends P (round n))
    (hnext : Ends P next) (path : List Nat) (greedy : Bool) (fuel : Nat) :
    Ends P (plus round path greedy next fuel) := by
  induction fuel with
  | zero => exact ends_fail
  | succ fuel ih => exact hround _ ((ih.choose hnext greedy).once path)

theorem ends_copies {round : Nat → Matcher → Matcher}
    (hround : ∀ i n, Ends P n → Ends P (round i n)) (hnext : Ends P next) (i count : Nat) :
    Ends P (copies round next i count) := by
  induction count generalizing i with
  | zero => exact hnext
  | succ count ih => exact hround i _ (ih (i + 1))

theorem ends_optional {round : Nat → Matcher → Matcher}
    (hround : ∀ i n, Ends P n → Ends P (round i n)) (hnext : Ends P next)
    (path : Nat → List Nat) (greedy : Bool) (i count : Nat) :
    Ends P (optional round path greedy next i count) := by
  induction count generalizing i with
  | zero => exact hnext
  | succ count ih => exact ((hround i _ (ih (i + 1))).choose hnext greedy).once (path i)

end Matcher

open Matcher in
/-- An expression followed by `next` ends as `next` does, when it is no matter whether a
character has been taken before, or when the expression takes none. -/
theorem Expr.ends_run {P : Cursor → Cursor → Prop} (e : Expr)
    (hstep : e.isVoid = false → StepsBack P) (path : List Nat) {next : Matcher}
    (hnext : Ends P next) :
    Ends P (e.run path next) := by
  induction e generalizing path next with
  | empty => exact hnext
  | chars set =>
      intro c groups tried stop groups' tried' h
      simp only [Expr.run] at h
      split at h
      · simp at h
      · rename_i d rest hrest
        split at h
        -- The one place at which a character is taken.
        · exact hstep rfl hrest (hnext h)
        · simp at h
  | look l =>
      intro c groups tried stop groups' tried' h
      simp only [Expr.run] at h
      split at h
      · exact hnext h
      · simp at h
  | repeats min max greedy body ih =>
      cases max with
      | some max =>
          have hround (i : Nat) (n : Matcher) (hn : Ends P n) :
              Ends P (body.run (i :: 0 :: path) n) := ih hstep _ hn
          exact ends_copies hround (ends_optional hround hnext _ greedy min (max - min)) 0 min
      | none =>
          cases min with
          | zero =>
              have hround (n : Matcher) (hn : Ends P n) :
                  Ends P (body.run (0 :: 0 :: path) n) := ih hstep _ hn
              -- A body that may take nothing is repeated in another way than one that may not.
              intro c groups tried stop groups' tried' h
              simp only [Expr.run] at h
              split at h
              · exact ends_star hround hnext _ greedy _ h
              · exact ((ends_plus hround hnext _ greedy _).choose hnext greedy).once _ h
          | succ min =>
              have hround (i : Nat) (n : Matcher) (hn : Ends P n) :
                  Ends P (body.run (i :: 0 :: path) n) := ih hstep _ hn
              refine ends_copies hround ?_ 0 min
              intro c groups tried stop groups' tried' h
              exact ends_plus (hround min) hnext _ greedy _ h
  | group index body ih =>
      intro c groups tried stop groups' tried' h
      have hset : Ends P fun c' gs => next c' (gs.set index ⟨c, c'⟩) := by
        intro c₁ groups₁ tried₁ stop₁ groups₁' tried₁' h₁
        exact hnext h₁
      exact ih hstep (0 :: path) hset h
  | seq a b iha ihb =>
      have ha (h : a.isVoid = false) : StepsBack P := hstep (by simp [Expr.isVoid, h])
      have hb (h : b.isVoid = false) : StepsBack P := hstep (by simp [Expr.isVoid, h])
      exact iha ha (0 :: path) (ihb hb (1 :: path) hnext)
  | alt a b iha ihb =>
      have ha (h : a.isVoid = false) : StepsBack P := hstep (by simp [Expr.isVoid, h])
      have hb (h : b.isVoid = false) : StepsBack P := hstep (by simp [Expr.isVoid, h])
      exact ((iha ha (0 :: path) hnext).orElse (ihb hb (1 :: path) hnext)).once path

/-- From a position of a text a matcher stops at one that is no earlier. -/
def Forth (text : List Char) (c stop : Cursor) : Prop :=
  c.In text → stop.In text ∧ c.offset ≤ stop.offset

theorem Forth.stepsBack (text : List Char) : Matcher.StepsBack (Forth text) := by
  intro c d rest stop hrest hforth hin
  obtain ⟨hstop, hle⟩ := hforth (hin.next hrest)
  exact ⟨hstop, Nat.le_of_succ_le hle⟩

structure Match.In (text : List Char) (m : Match) : Prop where
  start : m.span.start.In text
  stop : m.span.stop.In text
  le : m.span.start.offset ≤ m.span.stop.offset

theorem Match.In.isEmpty {text : List Char} {m : Match} (hin : m.In text)
    (hback : m.span.stop.offset ≤ m.span.start.offset) : m.isEmpty = true := by
  simp only [Match.isEmpty, decide_eq_true_eq]
  exact Nat.le_antisymm hin.le hback

theorem Match.In.text_eq {text : List Char} {m : Match} (hin : m.In text) :
    m.text = (text.drop m.span.start.offset).take
      (m.span.stop.offset - m.span.start.offset) := by
  simp only [Match.text, Span.text, hin.start.rest]

theorem Expr.matchAt?_in {e : Expr} {text : List Char} {c : Cursor} {m : Match}
    (hin : c.In text) (hmatch : e.matchAt? c = some m) : m.In text ∧ m.span.start = c := by
  unfold Expr.matchAt? at hmatch
  obtain ⟨⟨stop, groups⟩, hrun, rfl⟩ := Option.map_eq_some_iff.1 hmatch
  have hends : Matcher.Ends (Forth text) (e.run [] Matcher.done) := by
    refine e.ends_run (fun _ => Forth.stepsBack text) [] ?_
    intro c groups tried stop groups' tried' h
    simp only [Matcher.done, Prod.mk.injEq, Option.some.injEq] at h
    obtain ⟨⟨rfl, _⟩, _⟩ := h
    exact fun hc => ⟨hc, Nat.le_refl _⟩
  obtain ⟨hstop, hle⟩ := hends (Prod.ext hrun rfl) hin
  exact ⟨⟨hin, hstop, hle⟩, rfl⟩

theorem Expr.searchFrom?_in {e : Expr} {text rest : List Char} {offset : Nat}
    {before : Option Char} {m : Match} (hin : Cursor.In text ⟨offset, before, rest⟩)
    (hsearch : e.searchFrom? offset before rest = some m) : m.In text := by
  induction rest generalizing offset before with
  | nil => exact (Expr.matchAt?_in hin hsearch).1
  | cons d rest ih =>
      rw [Expr.searchFrom?] at hsearch
      cases hat : e.matchAt? ⟨offset, before, d :: rest⟩ with
      | some found =>
          rw [hat] at hsearch
          obtain rfl : found = m := Option.some.inj hsearch
          exact (Expr.matchAt?_in hin hat).1
      | none =>
          rw [hat] at hsearch
          exact ih (hin.next rfl) hsearch

end TwoWay.Regex

namespace TwoWay.Pattern

theorem find?_in {p : Pattern} {input : List Char} {m : Regex.Match}
    (hfind : p.find? input = some m) : m.In input := by
  unfold Pattern.find? at hfind
  split at hfind
  · exact (Regex.Expr.matchAt?_in (Regex.Cursor.in_stop input) hfind).1
  · exact Regex.Expr.searchFrom?_in (Regex.Cursor.in_start input) hfind

def Match.chars (m : Pattern.Match) : List Char := (m.string?.getD "").toList

/-- The part of the text that a pattern takes: the characters of its match,
unless it takes none or the match lies away from the front. -/
def took (p : Pattern) (found : Pattern.Match) : List Char :=
  if p.zeroWidth || found.start != 0 then [] else found.chars

theorem report_start_eq_zero (p : Pattern) {input : List Char} {m : Regex.Match}
    (hin : m.In input) : (p.report input m).start = 0 ↔ m.span.start.offset = 0 := by
  simp only [Pattern.report, Text.byteLength_eq_zero, List.take_eq_nil_iff]
  have hle := hin.start.le
  constructor
  · rintro (hzero | rfl)
    · exact hzero
    · simpa using hle
  · exact Or.inl

/-- A pattern that matches at the front of a text takes what it took from that
text, and no more than there is. -/
theorem take_of_matchFront? {p : Pattern} {input : List Char} {found : Pattern.Match}
    {taken : Nat} (hfront : p.matchFront? input = some (found, taken)) :
    taken ≤ input.length ∧ input.take taken = p.took found := by
  unfold Pattern.matchFront? at hfront
  cases hfind : p.find? input with
  | none => simp [hfind] at hfront
  | some m =>
      have hin := find?_in hfind
      simp only [hfind] at hfront
      split at hfront
      · simp at hfront
      · simp only [Option.some.injEq, Prod.mk.injEq] at hfront
        obtain ⟨rfl, rfl⟩ := hfront
        have hstart := report_start_eq_zero p hin
        by_cases hzero : p.zeroWidth = true
        · simp [took, hzero]
        · by_cases hfirst : m.span.start.offset = 0
          · have hchars : (p.report input m).chars = input.take m.span.stop.offset := by
              simp [Match.chars, Match.string?, Pattern.report, Value.string?, hin.text_eq, hfirst]
            simp only [took, hzero, hstart.2 hfirst, hfirst]
            simpa [hchars] using hin.stop.le
          · have hnot : (p.report input m).start ≠ 0 := fun h => hfirst (hstart.1 h)
            simp [took, hfirst, hnot]

/-- A pattern that takes what it matches takes all of it: a match away from the front is
empty. -/
theorem took_of_matchFront? {p : Pattern} {input : List Char} {found : Pattern.Match}
    {taken : Nat} (hzero : p.zeroWidth = false)
    (hfront : p.matchFront? input = some (found, taken)) : p.took found = found.chars := by
  unfold Pattern.matchFront? at hfront
  cases hfind : p.find? input with
  | none => simp [hfind] at hfront
  | some m =>
      have hin := find?_in hfind
      simp only [hfind] at hfront
      split at hfront
      · simp at hfront
      · rename_i hrefused
        simp only [Option.some.injEq, Prod.mk.injEq] at hfront
        obtain ⟨rfl, _⟩ := hfront
        by_cases hstart : (p.report input m).start = 0
        · simp [took, hzero, hstart]
        · have haway : m.span.start.offset ≠ 0 := by
            intro hfirst
            exact hstart (by simp [Pattern.report, hfirst])
          have hempty : m.span.start.offset = m.span.stop.offset := by
            simpa [haway, Regex.Match.isEmpty] using hrefused
          have hchars : (p.report input m).chars = [] := by
            simp [Match.chars, Match.string?, Pattern.report, Value.string?, hin.text_eq, hempty]
          simp [took, hzero, hstart, hchars]

theorem matchFront?_of_string {p : Pattern} {input : List Char} {text : String}
    (h : (p.matchFront? input).map (fun matched => matched.1.string?) = some (some text)) :
    ∃ found taken, p.matchFront? input = some (found, taken) ∧ found.text = .string text := by
  obtain ⟨⟨found, taken⟩, hfront, htext⟩ := Option.map_eq_some_iff.1 h
  refine ⟨found, taken, hfront, ?_⟩
  cases hvalue : found.text <;> simp_all [Match.string?, Value.string?]

theorem drop_of_matchFront? {p : Pattern} {text rest : List Char} {found : Pattern.Match}
    {taken : Nat} (hzero : p.zeroWidth = false)
    (hfront : p.matchFront? (text ++ rest) = some (found, taken)) (htext : found.chars = text) :
    (text ++ rest).drop taken = rest := by
  obtain ⟨hle, htake⟩ := take_of_matchFront? hfront
  rw [took_of_matchFront? hzero hfront, htext] at htake
  have hlength : taken = text.length := by
    have hcount := congrArg List.length htake
    rw [List.length_take, Nat.min_eq_left hle] at hcount
    exact hcount
  rw [hlength, List.drop_left]

end TwoWay.Pattern
