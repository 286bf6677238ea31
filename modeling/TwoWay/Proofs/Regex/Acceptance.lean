import Mathlib.Data.List.Forall2
import TwoWay.Proofs.Regex.FrontMatch
import TwoWay.Proofs.Regex.Iteration
import TwoWay.Proofs.Regex.Lowering
import TwoWay.Proofs.Regex.Opening

/-!
When a text that a pattern accepts is one that it matches from end to end. To accept a text the
expression is searched for in all of it; to match at the front it may be tried at the end alone,
and whether it is, is read off the text of the expression without the options that it was made
with. An expression tried there that could match before the end is accepted and not matched.

Of the options only two can make such a difference: lines that count from the start, and a text
that reads otherwise when blanks are skipped or octal escapes allowed. The other flags change
which characters are taken, but not where an expression opens with the end of the text.
-/

namespace TwoWay.Regex

/-- Whether two expressions are alike in what decides if they are tried at the end alone. -/
structure Expr.Alike (a b : Expr) : Prop where
  void : a.isVoid = b.isVoid
  front : a.opensWith .startText = b.opensWith .startText
  back : a.opensWith .endText = b.opensWith .endText

namespace Expr.Alike

variable {a b : Expr} {as bs : List Expr}

theorem refl (e : Expr) : e.Alike e := ⟨rfl, rfl, rfl⟩

theorem repetition (h : a.Alike b) (min : Nat) (max : Option Nat) (greedy greedy' : Bool) :
    (Expr.repetition min max greedy a).Alike (Expr.repetition min max greedy' b) := by
  unfold Expr.repetition
  rw [h.void]
  split
  split
  · exact refl _
  · exact h
  · exact ⟨h.void, by simp [opensWith, h.front], by simp [opensWith, h.back]⟩

theorem all_eq {P : Expr → Bool} (hP : ∀ {a b : Expr}, a.Alike b → P a = P b)
    (h : List.Forall₂ Alike as bs) : as.all P = bs.all P := by
  induction h with
  | nil => rfl
  | cons hfirst _ ih => simp only [List.all_cons, hP hfirst, ih]

theorem partsOpen_eq {P : Expr → Bool} (hP : ∀ {a b : Expr}, a.Alike b → P a = P b)
    (h : List.Forall₂ Alike as bs) : partsOpen P as = partsOpen P bs := by
  induction h with
  | nil => rfl
  | cons hfirst _ ih => simp only [partsOpen, hP hfirst, hfirst.void, ih]

theorem concat (h : List.Forall₂ Alike as bs) : (Expr.concat as).Alike (Expr.concat bs) := by
  constructor
  · rw [isVoid_concat, isVoid_concat, all_eq void h]
  · rw [(opening_opensWith _).concat, (opening_opensWith _).concat, partsOpen_eq front h]
  · rw [(opening_opensWith _).concat, (opening_opensWith _).concat, partsOpen_eq back h]

theorem alternation (h : List.Forall₂ Alike as bs) :
    (Expr.alternation as).Alike (Expr.alternation bs) := by
  cases as with
  | nil =>
      cases h
      exact refl _
  | cons a as =>
      have has : a :: as ≠ [] := List.cons_ne_nil a as
      have hbs : bs ≠ [] := by
        rintro rfl
        cases h
      constructor
      · rw [isVoid_alternation has, isVoid_alternation hbs, all_eq void h]
      · rw [opensWith_alternation has, opensWith_alternation hbs, all_eq front h]
      · rw [opensWith_alternation has, opensWith_alternation hbs, all_eq back h]

end Expr.Alike

theorem Flags.alike_look {f g : Flags} (hlines : f.multiLine = g.multiLine) (a : Assertion) :
    (Expr.look (f.look a)).Alike (Expr.look (g.look a)) := by
  cases a with
  | startLine | endLine =>
      simp only [Flags.look, hlines]
      constructor
      · rfl
      all_goals split <;> [rfl; (split <;> split <;> rfl)]
  | startText | endText => exact .refl _
  | wordBoundary | notWordBoundary | wordStart | wordEnd | wordStartHalf | wordEndHalf =>
      exact ⟨rfl, rfl, rfl⟩

theorem Flags.multiLine_apply {f g : Flags} (hlines : f.multiLine = g.multiLine)
    (change : FlagChange) : (f.apply change).multiLine = (g.apply change).multiLine := by
  induction change generalizing f g with
  | nil => exact hlines
  | cons c change ih =>
      obtain ⟨flag, on⟩ := c
      refine ih ?_
      cases flag <;> first | rfl | exact hlines

mutual

/-- A tree that is lowered from two sets of flags, lines counting in both or in neither, comes
to two expressions that are alike. By induction on the tree. -/
theorem Tree.alike_of_lower? {table : PropertyTable} :
    ∀ (t : Tree) {f g f' g' : Flags} {a b : Expr},
    f.multiLine = g.multiLine → t.lower? table f = some (a, f') → t.lower? table g = some (b, g') →
    a.Alike b ∧ f'.multiLine = g'.multiLine
  | .empty, f, g, f', g', a, b, hlines, ha, hb => by
      simp only [Tree.lower?, Option.some.injEq, Prod.mk.injEq] at ha hb
      obtain ⟨rfl, rfl⟩ := ha
      obtain ⟨rfl, rfl⟩ := hb
      exact ⟨.refl _, hlines⟩
  | .flags change, f, g, f', g', a, b, hlines, ha, hb => by
      simp only [Tree.lower?, Option.some.injEq, Prod.mk.injEq] at ha hb
      obtain ⟨rfl, rfl⟩ := ha
      obtain ⟨rfl, rfl⟩ := hb
      exact ⟨.refl _, Flags.multiLine_apply hlines change⟩
  | .assertion edge, f, g, f', g', a, b, hlines, ha, hb => by
      simp only [Tree.lower?, Option.some.injEq, Prod.mk.injEq] at ha hb
      obtain ⟨rfl, rfl⟩ := ha
      obtain ⟨rfl, rfl⟩ := hb
      exact ⟨Flags.alike_look hlines edge, hlines⟩
  | .repetition min max greedy body, f, g, f', g', a, b, hlines, ha, hb => by
      obtain ⟨a', ha', rfl⟩ := Tree.lower?_repetition.1 ha
      obtain ⟨b', hb', rfl⟩ := Tree.lower?_repetition.1 hb
      obtain ⟨halike, hafter⟩ := Tree.alike_of_lower? body hlines ha' hb'
      exact ⟨halike.repetition min max _ _, hafter⟩
  | .group (.capturing index) body, f, g, f', g', a, b, hlines, ha, hb => by
      obtain ⟨_, _, ha', rfl, rfl⟩ := Tree.lower?_capturing.1 ha
      obtain ⟨_, _, hb', rfl, rfl⟩ := Tree.lower?_capturing.1 hb
      obtain ⟨⟨hvoid, hfront, hback⟩, _⟩ := Tree.alike_of_lower? body hlines ha' hb'
      exact ⟨⟨hvoid, hfront, hback⟩, hlines⟩
  | .group (.plain change) body, f, g, f', g', a, b, hlines, ha, hb => by
      obtain ⟨_, ha', rfl⟩ := Tree.lower?_plain.1 ha
      obtain ⟨_, hb', rfl⟩ := Tree.lower?_plain.1 hb
      obtain ⟨halike, _⟩ :=
        Tree.alike_of_lower? body (Flags.multiLine_apply hlines change) ha' hb'
      exact ⟨halike, hlines⟩
  | .concat parts, f, g, f', g', a, b, hlines, ha, hb => by
      obtain ⟨_, has, rfl⟩ := Tree.lower?_concat.1 ha
      obtain ⟨_, hbs, rfl⟩ := Tree.lower?_concat.1 hb
      obtain ⟨halike, hafter⟩ := Tree.alike_of_lowerAll? parts hlines has hbs
      exact ⟨.concat halike, hafter⟩
  | .alternation branches, f, g, f', g', a, b, hlines, ha, hb => by
      obtain ⟨_, has, rfl⟩ := Tree.lower?_alternation.1 ha
      obtain ⟨_, hbs, rfl⟩ := Tree.lower?_alternation.1 hb
      obtain ⟨halike, hafter⟩ := Tree.alike_of_lowerAll? branches hlines has hbs
      exact ⟨.alternation halike, hafter⟩
  | .literal _, f, g, f', g', a, b, hlines, ha, hb | .dot, f, g, f', g', a, b, hlines, ha, hb
  | .short _ _, f, g, f', g', a, b, hlines, ha, hb
  | .property _ _, f, g, f', g', a, b, hlines, ha, hb
  | .bracketed _ _, f, g, f', g', a, b, hlines, ha, hb => by
      obtain ⟨⟨_, rfl⟩, rfl⟩ := Tree.lower?_takesOne rfl ha
      obtain ⟨⟨_, rfl⟩, rfl⟩ := Tree.lower?_takesOne rfl hb
      exact ⟨⟨rfl, rfl, rfl⟩, hlines⟩

theorem Tree.alike_of_lowerAll? {table : PropertyTable} :
    ∀ (ts : List Tree) {f g f' g' : Flags} {as bs : List Expr},
    f.multiLine = g.multiLine → Tree.lower?.lowerAll? table f ts = some (as, f') →
    Tree.lower?.lowerAll? table g ts = some (bs, g') →
    List.Forall₂ Expr.Alike as bs ∧ f'.multiLine = g'.multiLine
  | [], f, g, f', g', as, bs, hlines, ha, hb => by
      simp only [Tree.lower?.lowerAll?, Option.some.injEq, Prod.mk.injEq] at ha hb
      obtain ⟨rfl, rfl⟩ := ha
      obtain ⟨rfl, rfl⟩ := hb
      exact ⟨.nil, hlines⟩
  | t :: ts, f, g, f', g', as, bs, hlines, ha, hb => by
      obtain ⟨a, f₁, as', hfirst, has, rfl⟩ := Tree.lowerAll?_cons.1 ha
      obtain ⟨b, g₁, bs', hfirst', hbs, rfl⟩ := Tree.lowerAll?_cons.1 hb
      obtain ⟨halike, hafter⟩ := Tree.alike_of_lower? t hlines hfirst hfirst'
      obtain ⟨hothers, hend⟩ := Tree.alike_of_lowerAll? ts hafter has hbs
      exact ⟨.cons halike hothers, hend⟩

end

end TwoWay.Regex

namespace TwoWay.Pattern

variable {table : Regex.PropertyTable} {options : Regex.Options} {source : String} {p : Pattern}
  {text : List Char}

end TwoWay.Pattern
