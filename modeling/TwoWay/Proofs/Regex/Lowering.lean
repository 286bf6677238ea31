import TwoWay.Regex.Lower

/-!
How a tree is lowered, read off its form: what each kind of tree comes to, and which flags hold
after it. A change of flags holds for what follows it in its group and is undone behind the
group, so no flag is ever on that was not on at first or that no change in the tree switches on.
-/

namespace TwoWay.Regex

section Inversion

variable {table : PropertyTable} {f f' : Flags} {e : Expr} {es : List Expr}

theorem Flags.literal?_chars {l : Literal} (h : f.literal? l = some e) : ∃ set, .chars set = e := by
  unfold Flags.literal? at h
  split at h
  · cases h
  · exact ⟨_, Option.some.inj h⟩

theorem Flags.dot?_chars (h : f.dot? = some e) : ∃ set, .chars set = e := by
  unfold Flags.dot? at h
  split at h
  · cases h
  · split at h
    · exact ⟨_, Option.some.inj h⟩
    · split at h <;> exact ⟨_, Option.some.inj h⟩

def Tree.takesOne : Tree → Bool
  | .literal _ | .dot | .short _ _ | .property _ _ | .bracketed _ _ => true
  | _ => false

theorem Tree.lower?_takesOne {t : Tree} (ht : t.takesOne = true)
    (h : t.lower? table f = some (e, f')) :
    (∃ set, .chars set = e) ∧ f = f' := by
  cases t with
  | literal l =>
      obtain ⟨e', hliteral, rfl, rfl⟩ : ∃ e', f.literal? l = some e' ∧ e' = e ∧ f = f' := by
        simpa [Tree.lower?, Option.bind_eq_some_iff] using h
      exact ⟨Flags.literal?_chars hliteral, rfl⟩
  | dot =>
      obtain ⟨e', hdot, rfl, rfl⟩ : ∃ e', f.dot? = some e' ∧ e' = e ∧ f = f' := by
        simpa [Tree.lower?, Option.bind_eq_some_iff] using h
      exact ⟨Flags.dot?_chars hdot, rfl⟩
  | short _ _ | property _ _ =>
      simp only [Tree.lower?, Option.bind_eq_bind, Option.bind_eq_some_iff, Option.pure_def,
        Option.some.injEq, Prod.mk.injEq] at h
      obtain ⟨set, _, hset, hflags⟩ := h
      exact ⟨⟨set, hset⟩, hflags⟩
  | bracketed _ _ =>
      simp only [Tree.lower?, Option.bind_eq_bind, Option.bind_eq_some_iff, Option.pure_def,
        Option.some.injEq, Prod.mk.injEq] at h
      obtain ⟨_, _, set, _, hset, hflags⟩ := h
      exact ⟨⟨set, hset⟩, hflags⟩
  | empty | flags _ | assertion _ | repetition _ _ _ _ | group _ _ | concat _ | alternation _ =>
      cases ht

theorem Tree.lower?_repetition {min : Nat} {max : Option Nat} {greedy : Bool} {body : Tree} :
    (Tree.repetition min max greedy body).lower? table f = some (e, f') ↔
      ∃ e', body.lower? table f = some (e', f') ∧
        e = .repetition min max (greedy != f'.swapGreed) e' := by
  simp only [Tree.lower?, Option.bind_eq_bind, Option.bind_eq_some_iff, Option.pure_def,
    Option.some.injEq, Prod.mk.injEq, Prod.exists]
  constructor
  · rintro ⟨e', _, hbody, rfl, rfl⟩
    exact ⟨e', hbody, rfl⟩
  · rintro ⟨e', hbody, rfl⟩
    exact ⟨e', f', hbody, rfl, rfl⟩

/-- Flags that change within a group are as before after it. -/
theorem Tree.lower?_capturing {index : Nat} {body : Tree} :
    (Tree.group (.capturing index) body).lower? table f = some (e, f') ↔
      ∃ e' f₁, body.lower? table f = some (e', f₁) ∧ .group index e' = e ∧ f = f' := by
  simp [Tree.lower?, Option.bind_eq_some_iff]

theorem Tree.lower?_plain {change : FlagChange} {body : Tree} :
    (Tree.group (.plain change) body).lower? table f = some (e, f') ↔
      ∃ f₁, body.lower? table (f.apply change) = some (e, f₁) ∧ f = f' := by
  simp only [Tree.lower?, Option.bind_eq_bind, Option.bind_eq_some_iff, Option.pure_def,
    Option.some.injEq, Prod.mk.injEq, Prod.exists]
  constructor
  · rintro ⟨_, f₁, hbody, rfl, hflags⟩
    exact ⟨f₁, hbody, hflags⟩
  · rintro ⟨f₁, hbody, hflags⟩
    exact ⟨e, f₁, hbody, rfl, hflags⟩

theorem Tree.lower?_concat {parts : List Tree} :
    (Tree.concat parts).lower? table f = some (e, f') ↔
      ∃ es, Tree.lower?.lowerAll? table f parts = some (es, f') ∧ .concat es = e := by
  simp [Tree.lower?, Option.bind_eq_some_iff]

theorem Tree.lower?_alternation {branches : List Tree} :
    (Tree.alternation branches).lower? table f = some (e, f') ↔
      ∃ es, Tree.lower?.lowerAll? table f branches = some (es, f') ∧ .alternation es = e := by
  simp [Tree.lower?, Option.bind_eq_some_iff]

theorem Tree.lowerAll?_cons {t : Tree} {ts : List Tree} :
    Tree.lower?.lowerAll? table f (t :: ts) = some (es, f') ↔
      ∃ e f₁ rest, t.lower? table f = some (e, f₁) ∧
        Tree.lower?.lowerAll? table f₁ ts = some (rest, f') ∧ e :: rest = es := by
  simp [Tree.lower?.lowerAll?, Option.bind_eq_some_iff]

end Inversion

def Flags.isOn (f : Flags) : Flag → Bool
  | .ignoreCase => f.ignoreCase
  | .multiLine => f.multiLine
  | .dotMatchesNewline => f.dotMatchesNewline
  | .swapGreed => f.swapGreed
  | .unicode => f.unicode
  | .crlf => f.crlf
  | .ignoreSpace => false

/-- Whether a change of flags somewhere in the tree switches a flag on. -/
def Tree.switchesOn (flag : Flag) : Tree → Bool
  | .flags change => change.contains (flag, true)
  | .repetition _ _ _ body => body.switchesOn flag
  | .group (.capturing _) body => body.switchesOn flag
  | .group (.plain change) body => change.contains (flag, true) || body.switchesOn flag
  | .concat parts => anySwitchesOn parts
  | .alternation branches => anySwitchesOn branches
  | _ => false
where
  anySwitchesOn : List Tree → Bool
    | [] => false
    | t :: ts => t.switchesOn flag || anySwitchesOn ts

section Flags

variable {allowed : Flag → Bool} {f f' : Flags}

/-- Whether all flags that are on are `allowed`, and lines end in line feeds. -/
structure Flags.Within (allowed : Flag → Bool) (f : Flags) : Prop where
  on : ∀ flag, f.isOn flag = true → allowed flag = true
  feeds : f.lineEnd = 0x0A

theorem Flags.isOn_set {flag flag' : Flag} {on : Bool} (hon : (f.set flag on).isOn flag' = true) :
    f.isOn flag' = true ∨ (flag', true) = (flag, on) := by
  cases flag <;> cases flag' <;> simp_all [Flags.set, Flags.isOn]

theorem Flags.lineEnd_set {flag : Flag} {on : Bool} : (f.set flag on).lineEnd = f.lineEnd := by
  cases flag <;> rfl

def Tree.Within (allowed : Flag → Bool) (t : Tree) : Prop :=
  ∀ flag, t.switchesOn flag = true → allowed flag = true

def Tree.AllWithin (allowed : Flag → Bool) (ts : List Tree) : Prop :=
  ∀ flag, Tree.switchesOn.anySwitchesOn flag ts = true → allowed flag = true

theorem Tree.allWithin_cons {t : Tree} {ts : List Tree} :
    Tree.AllWithin allowed (t :: ts) ↔ t.Within allowed ∧ Tree.AllWithin allowed ts := by
  simp only [AllWithin, Within, switchesOn.anySwitchesOn, Bool.or_eq_true, or_imp, forall_and]

theorem Tree.within_plain {change : FlagChange} {body : Tree} :
    (Tree.group (.plain change) body).Within allowed ↔
      (Tree.flags change).Within allowed ∧ body.Within allowed := by
  simp only [Within, switchesOn, Bool.or_eq_true, or_imp, forall_and]

theorem Flags.Within.apply {change : FlagChange} (hf : f.Within allowed)
    (hchange : (Tree.flags change).Within allowed) : (f.apply change).Within allowed := by
  induction change generalizing f with
  | nil => exact hf
  | cons c change ih =>
      refine ih (f := f.set c.1 c.2) ⟨?_, Flags.lineEnd_set.trans hf.feeds⟩ ?_
      · intro flag hon
        rcases Flags.isOn_set hon with hon | heq
        · exact hf.on flag hon
        · exact hchange flag (by simp [Tree.switchesOn, heq])
      · intro flag hlater
        exact hchange flag (by simp_all [Tree.switchesOn])

end Flags

mutual

/-- A tree that switches on only flags that are allowed leaves only such flags on. -/
theorem Tree.within_of_lower? {table : PropertyTable} {allowed : Flag → Bool} :
    ∀ (t : Tree) {f f' : Flags} {e : Expr}, f.Within allowed → t.Within allowed →
    t.lower? table f = some (e, f') → f'.Within allowed
  | .flags change, f, f', e, hf, ht, h => by
      simp only [Tree.lower?, Option.some.injEq, Prod.mk.injEq] at h
      obtain ⟨_, rfl⟩ := h
      exact hf.apply ht
  | .repetition min max greedy body, f, f', e, hf, ht, h => by
      obtain ⟨e', hbody, _⟩ := Tree.lower?_repetition.1 h
      exact Tree.within_of_lower? body hf ht hbody
  | .group (.capturing index) body, f, f', e, hf, _, h => by
      obtain ⟨_, _, _, _, rfl⟩ := Tree.lower?_capturing.1 h
      exact hf
  | .group (.plain change) body, f, f', e, hf, _, h => by
      obtain ⟨_, _, rfl⟩ := Tree.lower?_plain.1 h
      exact hf
  | .concat parts, f, f', e, hf, ht, h => by
      obtain ⟨_, hparts, _⟩ := Tree.lower?_concat.1 h
      exact Tree.within_of_lowerAll? parts hf ht hparts
  | .alternation branches, f, f', e, hf, ht, h => by
      obtain ⟨_, hbranches, _⟩ := Tree.lower?_alternation.1 h
      exact Tree.within_of_lowerAll? branches hf ht hbranches
  | .empty, f, f', e, hf, _, h | .assertion _, f, f', e, hf, _, h => by
      simp only [Tree.lower?, Option.some.injEq, Prod.mk.injEq] at h
      obtain ⟨_, rfl⟩ := h
      exact hf
  | .literal _, f, f', e, hf, _, h | .dot, f, f', e, hf, _, h | .short _ _, f, f', e, hf, _, h
  | .property _ _, f, f', e, hf, _, h | .bracketed _ _, f, f', e, hf, _, h => by
      obtain ⟨_, rfl⟩ := Tree.lower?_takesOne rfl h
      exact hf

theorem Tree.within_of_lowerAll? {table : PropertyTable} {allowed : Flag → Bool} :
    ∀ (ts : List Tree) {f f' : Flags} {es : List Expr}, f.Within allowed →
    Tree.AllWithin allowed ts → Tree.lower?.lowerAll? table f ts = some (es, f') → f'.Within allowed
  | [], f, f', es, hf, _, h => by
      simp only [Tree.lower?.lowerAll?, Option.some.injEq, Prod.mk.injEq] at h
      obtain ⟨_, rfl⟩ := h
      exact hf
  | t :: ts, f, f', es, hf, hts, h => by
      obtain ⟨e, f₁, rest, ht, hrest, _⟩ := Tree.lowerAll?_cons.1 h
      obtain ⟨hfirst, hothers⟩ := Tree.allWithin_cons.1 hts
      exact Tree.within_of_lowerAll? ts (Tree.within_of_lower? t hf hfirst ht) hothers hrest

end

end TwoWay.Regex
