import Mathlib.Data.Nat.Find
import TwoWay.Proofs.Regex.Span

/-!
What a search finds, and when it is enough to look at the end of the text.

A search finds the preferred match among those that begin earliest: of all places of the text
it is the first at which the expression matches. Places are numbered by the characters before
them, and a place carries the character before it, so that conditions on it see what they
would see from the start of the text.

An expression that opens with one of some conditions, as its form shows, finds nothing at a
place where none of them holds. The end of the text holds at one place alone, so an expression
that opens with it matches there or nowhere.
-/

namespace TwoWay.Regex

def Cursor.after (text : List Char) (k : Nat) : Cursor :=
  ⟨k, (text.take k).getLast?, text.drop k⟩

theorem Cursor.after_append (done rest : List Char) :
    Cursor.after (done ++ rest) done.length = ⟨done.length, done.getLast?, rest⟩ := by
  simp [Cursor.after]

theorem Cursor.stop_eq_after (text : List Char) :
    Cursor.stop text = Cursor.after text text.length := by
  simp [Cursor.stop, Cursor.after]

namespace Matcher

def FailsAt (place : Cursor) (m : Matcher) : Prop := Ends (fun c _ => c ≠ place) m

end Matcher

namespace Expr

open Matcher

variable {e : Expr} {l : Look} {looks : Look → Bool} {place : Cursor} {text : List Char} {m : Match}

/-- Whether every match must pass one of some conditions before it takes a character. What
takes a character of no set has no match. -/
def opensAmong (looks : Look → Bool) : Expr → Bool
  | .empty => false
  | .chars set => set = .empty
  | .look l => looks l
  | .repeats min _ _ body => 0 < min && body.opensAmong looks
  | .group _ body => body.opensAmong looks
  | .seq a b => a.opensAmong looks || (a.isVoid && b.opensAmong looks)
  | .alt a b => a.opensAmong looks && b.opensAmong looks

theorem opensAmong_of_opensWith (hopens : e.opensWith l = true) :
    e.opensAmong (fun l' => l' = l) = true := by
  induction e with
  | empty => cases hopens
  | chars set => cases hopens
  | look l' => exact hopens
  | repeats min max greedy body ih =>
      simp only [opensWith, opensAmong, Bool.and_eq_true] at hopens ⊢
      exact ⟨hopens.1, ih hopens.2⟩
  | group index body ih => exact ih hopens
  | seq a b iha ihb =>
      simp only [opensWith, opensAmong, Bool.or_eq_true, Bool.and_eq_true] at hopens ⊢
      exact hopens.imp iha (And.imp_right ihb)
  | alt a b iha ihb =>
      simp only [opensWith, opensAmong, Bool.and_eq_true] at hopens ⊢
      exact ⟨iha hopens.1, ihb hopens.2⟩

theorem failsAt_of_isVoid (hvoid : e.isVoid = true) (path : List Nat) {next : Matcher}
    (hnext : FailsAt place next) : FailsAt place (e.run path next) := by
  apply e.ends_run _ path hnext
  intro htakes
  simp [hvoid] at htakes

/-- By induction on the expression: what opens with one of some conditions comes to it before
it takes a character, whatever is to follow. A repetition that may be left out does not open
with anything. -/
theorem failsAt_of_opensAmong (hopens : e.opensAmong looks = true)
    (hnone : ∀ l, looks l = true → l.holds place.before place.rest.head? = false)
    (path : List Nat) (next : Matcher) : FailsAt place (e.run path next) := by
  induction e generalizing path next with
  | empty => cases hopens
  | chars set =>
      obtain rfl : set = .empty := by simpa [opensAmong] using hopens
      intro c groups tried stop groups' tried' h
      simp only [Expr.run] at h
      split at h <;> simp [CharSet.contains, CharSet.covers, CharSet.empty] at h
  | look l =>
      intro c groups tried stop groups' tried' h
      have hholds := hnone l hopens
      rintro rfl
      simp [Expr.run, hholds] at h
  | repeats min max greedy body ih =>
      obtain ⟨hmin, hbody⟩ : 0 < min ∧ body.opensAmong looks = true := by
        simpa [opensAmong] using hopens
      obtain ⟨count, rfl⟩ : ∃ count, min = count + 1 := ⟨min - 1, by omega⟩
      cases max with
      | some max => exact ih hbody _ _
      | none =>
          cases count with
          | zero =>
              intro c groups tried stop groups' tried' h
              exact ih hbody _ _ h
          | succ count => exact ih hbody _ _
  | group index body ih =>
      intro c groups tried stop groups' tried' h
      exact ih hopens _ _ h
  | seq a b iha ihb =>
      have hparts : a.opensAmong looks = true ∨ a.isVoid = true ∧ b.opensAmong looks = true := by
        simpa [opensAmong] using hopens
      -- A first part that takes nothing leaves it to the second to open with a condition.
      rcases hparts with ha | ⟨hvoid, hb⟩
      · exact iha ha _ _
      · exact failsAt_of_isVoid hvoid _ (ihb hb _ _)
  | alt a b iha ihb =>
      obtain ⟨ha, hb⟩ : a.opensAmong looks = true ∧ b.opensAmong looks = true := by
        simpa [opensAmong] using hopens
      exact ((iha ha _ _).orElse (ihb hb _ _)).once path

/-- No match begins where none of the conditions holds among which the expression opens. -/
theorem matchAt?_of_opensAmong (hopens : e.opensAmong looks = true)
    (hnone : ∀ l, looks l = true → l.holds place.before place.rest.head? = false) :
    e.matchAt? place = none := by
  have hfails := failsAt_of_opensAmong hopens hnone [] Matcher.done
  unfold matchAt?
  rw [Option.map_eq_none_iff, Option.eq_none_iff_forall_ne_some]
  rintro ⟨stop, groups⟩ hfound
  exact hfails (Prod.ext hfound rfl) rfl

theorem matchAt?_of_opensWith (hopens : e.opensWith l = true)
    (hholds : l.holds place.before place.rest.head? = false) : e.matchAt? place = none := by
  apply matchAt?_of_opensAmong (opensAmong_of_opensWith hopens)
  simpa using hholds

theorem holds_of_matchAt? (hopens : e.opensAmong looks = true)
    (hmatch : e.matchAt? place = some m) :
    ∃ l, looks l = true ∧ l.holds place.before place.rest.head? = true := by
  by_contra hnowhere
  have hnone : e.matchAt? place = none := by
    apply matchAt?_of_opensAmong hopens
    intro l hl
    by_contra hholds
    exact hnowhere ⟨l, hl, by simpa using hholds⟩
  rw [hmatch] at hnone
  cases hnone

theorem start_of_matchAt? (hmatch : e.matchAt? place = some m) : m.span.start = place := by
  unfold matchAt? at hmatch
  obtain ⟨_, _, rfl⟩ := Option.map_eq_some_iff.1 hmatch
  rfl

/-- The preferred match at the first place, of those after so many characters or more, that
has one. -/
structure LeftmostFrom (e : Expr) (text : List Char) (least : Nat) (m : Match) : Prop where
  ge : least ≤ m.span.start.offset
  le : m.span.start.offset ≤ text.length
  found : e.matchAt? (Cursor.after text m.span.start.offset) = some m
  first : ∀ j, least ≤ j → j < m.span.start.offset → e.matchAt? (Cursor.after text j) = none

/-- The preferred match of a text at the first place that has one. -/
def Leftmost (e : Expr) (text : List Char) (m : Match) : Prop := e.LeftmostFrom text 0 m

variable {least : Nat} {found : Match}

theorem offset_of_matchAt? {k : Nat} (hmatch : e.matchAt? (Cursor.after text k) = some m) :
    m.span.start.offset = k := by
  rw [start_of_matchAt? hmatch]
  rfl

theorem leftmostFrom_here (hle : least ≤ text.length)
    (hat : e.matchAt? (Cursor.after text least) = some found) :
    e.LeftmostFrom text least m ↔ found = m := by
  constructor
  · rintro ⟨hge, _, hfound, hfirst⟩
    rcases Nat.eq_or_lt_of_le hge with heq | hlt
    · rw [← heq, hat] at hfound
      exact Option.some.inj hfound
    · rw [hfirst least (Nat.le_refl least) hlt] at hat
      cases hat
  · rintro rfl
    have hoffset := offset_of_matchAt? hat
    refine ⟨by omega, by omega, by rw [hoffset]; exact hat, ?_⟩
    intro j hj hlt
    omega

theorem leftmostFrom_next (hat : e.matchAt? (Cursor.after text least) = none) :
    e.LeftmostFrom text least m ↔ e.LeftmostFrom text (least + 1) m := by
  constructor
  · rintro ⟨hge, hle, hfound, hfirst⟩
    have hne : m.span.start.offset ≠ least := by
      intro heq
      rw [heq, hat] at hfound
      cases hfound
    exact ⟨by omega, hle, hfound, fun j hj hlt => hfirst j (by omega) hlt⟩
  · rintro ⟨hge, hle, hfound, hfirst⟩
    refine ⟨by omega, hle, hfound, ?_⟩
    intro j hj hlt
    rcases Nat.eq_or_lt_of_le hj with rfl | hj
    · exact hat
    · exact hfirst j hj hlt

/-- What a search finds from a place on. By induction on the text after the place. -/
theorem searchFrom?_eq_some (done rest : List Char) :
    e.searchFrom? done.length done.getLast? rest = some m ↔
      e.LeftmostFrom (done ++ rest) done.length m := by
  induction rest generalizing done with
  | nil =>
      rw [searchFrom?, ← Cursor.after_append done []]
      cases hat : e.matchAt? (Cursor.after (done ++ []) done.length) with
      | some found => rw [leftmostFrom_here (by simp) hat, Option.some.injEq]
      | none =>
          rw [leftmostFrom_next hat]
          constructor
          · intro hnone
            cases hnone
          · rintro ⟨hge, hle, _, _⟩
            rw [List.append_nil] at hle
            omega
  | cons c cs ih =>
      rw [searchFrom?, ← Cursor.after_append done (c :: cs)]
      cases hat : e.matchAt? (Cursor.after (done ++ c :: cs) done.length) with
      | some found =>
          rw [leftmostFrom_here (by simp) hat]
          exact Option.some_inj
      | none =>
          have hnext := ih (done ++ [c])
          simp only [List.append_assoc, List.cons_append, List.nil_append, List.length_append,
            List.length_cons, List.length_nil, List.getLast?_append, List.getLast?_singleton,
            Option.some_or] at hnext
          rw [leftmostFrom_next hat, ← hnext]
          rfl

theorem search?_eq_some : e.search? text = some m ↔ e.Leftmost text m :=
  searchFrom?_eq_some [] text

theorem search?_eq_none :
    e.search? text = none ↔ ∀ k ≤ text.length, e.matchAt? (Cursor.after text k) = none := by
  constructor
  · intro hnone
    by_contra hsome
    have hex : ∃ k, k ≤ text.length ∧ e.matchAt? (Cursor.after text k) ≠ none := by
      simpa using hsome
    -- Of the places that have a match, the first is where the search would have ended.
    obtain ⟨hle, hmatch⟩ := Nat.find_spec hex
    obtain ⟨m, hm⟩ := Option.ne_none_iff_exists'.1 hmatch
    have hstart := offset_of_matchAt? hm
    have hleftmost : e.Leftmost text m := by
      refine ⟨Nat.zero_le _, by rw [hstart]; exact hle, by rw [hstart]; exact hm, ?_⟩
      intro j _ hj
      have hsmaller := Nat.find_min hex (by rwa [← hstart])
      have hlt : j ≤ text.length := by omega
      simpa [hlt] using hsmaller
    rw [search?_eq_some.2 hleftmost] at hnone
    cases hnone
  · intro hnone
    rw [Option.eq_none_iff_forall_ne_some]
    intro m hm
    obtain ⟨_, hle, hmatch, _⟩ := search?_eq_some.1 hm
    rw [hnone _ hle] at hmatch
    cases hmatch

theorem matchAtEnd?_eq_some (hopens : e.opensWith .endText = true) :
    e.matchAtEnd? text = some m ↔ e.Leftmost text m := by
  have hbefore (j : Nat) (hj : j < text.length) : e.matchAt? (Cursor.after text j) = none := by
    apply matchAt?_of_opensWith hopens
    simp [Look.holds, Cursor.after, List.head?_drop, List.getElem?_eq_getElem hj]
  rw [matchAtEnd?, Cursor.stop_eq_after]
  constructor
  · intro hmatch
    have hstart := offset_of_matchAt? hmatch
    refine ⟨Nat.zero_le _, by omega, by rw [hstart]; exact hmatch, ?_⟩
    intro j _ hj
    exact hbefore j (by omega)
  · rintro ⟨_, hle, hmatch, _⟩
    rcases Nat.eq_or_lt_of_le hle with hend | hlt
    · rwa [hend] at hmatch
    · rw [hbefore _ hlt] at hmatch
      cases hmatch

end Expr

end TwoWay.Regex
