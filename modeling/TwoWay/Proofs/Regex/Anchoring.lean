import TwoWay.Proofs.Regex.FrontMatch
import TwoWay.Proofs.Regex.Lowering
import TwoWay.Proofs.Regex.Opening

/-!
What it comes to that a pattern is anchored. The check is made on the text as it is written:
the first thing that is no change of flags has to be the start or the end of the text or of a
line, in every branch and within groups. The expression that is matched opens with one of
these, whatever the flags make of them and however its parts have been put together.

So each match begins at an edge of the text, or at the edge of a line when some change of flags
lets lines count. When none does, a match that does not begin at the front of the text is
empty, and matching at the front finds something whenever there is anything to be found.
-/

namespace TwoWay.Regex

/-- The conditions that a first assertion can come to: the ends of the text, and those of
lines where the flags for them are allowed and they end in line feeds. -/
def Look.isEdge (allowed : Flag → Bool) : Look → Bool
  | .startText | .endText => true
  | .startLine lineEnd | .endLine lineEnd => allowed .multiLine && lineEnd = 0x0A
  | .startLineCrlf | .endLineCrlf => allowed .multiLine && allowed .crlf
  | .word _ _ => false

theorem Flags.Within.isEdge_look {allowed : Flag → Bool} {f : Flags} (hf : f.Within allowed)
    {a : Assertion} (ha : (Tree.assertion a).isAnchored = true) :
    (f.look a).isEdge allowed = true := by
  have hlines := hf.on .multiLine
  have hcrlf := hf.on .crlf
  have hfeeds := hf.feeds
  cases a with
  | startLine | endLine =>
      simp only [Flags.look]
      split
      · rfl
      · split <;> simp_all [Look.isEdge, Flags.isOn]
  | startText | endText => rfl
  | wordBoundary | notWordBoundary | wordStart | wordEnd | wordStartHalf | wordEndHalf => cases ha

theorem Tree.headAnchored_cons {t : Tree} {ts : List Tree}
    (h : Tree.isAnchored.headAnchored (t :: ts) = true) :
    t.isAnchored = true ∨
      (∃ change, t = .flags change) ∧ Tree.isAnchored.headAnchored ts = true := by
  cases t with
  | flags change => exact Or.inr ⟨⟨change, rfl⟩, h⟩
  | empty | literal _ | dot | assertion _ | short _ _ | property _ _ | bracketed _ _
  | repetition _ _ _ _ | group _ _ | concat _ | alternation _ => exact Or.inl h

mutual

/-- The expression of an anchored tree opens with the end of the text or of a line. By
induction on the tree; a part behind changes of flags is lowered with what they allow. -/
theorem Tree.opensAmong_of_isAnchored {table : PropertyTable} {allowed : Flag → Bool} :
    ∀ (t : Tree) {f f' : Flags} {e : Expr}, t.isAnchored = true → f.Within allowed →
    t.Within allowed → t.lower? table f = some (e, f') → e.opensAmong (Look.isEdge allowed) = true
  | .assertion a, f, f', e, hanchored, hf, _, h => by
      simp only [Tree.lower?, Option.some.injEq, Prod.mk.injEq] at h
      obtain ⟨rfl, _⟩ := h
      exact hf.isEdge_look hanchored
  | .group (.capturing index) body, f, f', e, hanchored, hf, ht, h => by
      obtain ⟨_, _, hbody, rfl, _⟩ := Tree.lower?_capturing.1 h
      have hopens := Tree.opensAmong_of_isAnchored body hanchored hf ht hbody
      exact hopens
  | .group (.plain change) body, f, f', e, hanchored, hf, ht, h => by
      obtain ⟨_, hbody, _⟩ := Tree.lower?_plain.1 h
      obtain ⟨hchange, hwithin⟩ := Tree.within_plain.1 ht
      exact Tree.opensAmong_of_isAnchored body hanchored (hf.apply hchange) hwithin hbody
  | .concat parts, f, f', e, hanchored, hf, ht, h => by
      obtain ⟨es, hparts, rfl⟩ := Tree.lower?_concat.1 h
      rw [(Expr.opening_opensAmong _).concat]
      exact Tree.partsOpen_of_headAnchored parts hanchored hf ht hparts
  | .alternation branches, f, f', e, hanchored, hf, ht, h => by
      obtain ⟨es, hbranches, rfl⟩ := Tree.lower?_alternation.1 h
      exact Expr.opensAmong_alternation
        (Tree.all_opensAmong_of_allAnchored branches hanchored hf ht hbranches)
  | .empty, _, _, _, hanchored, _, _, _ | .flags _, _, _, _, hanchored, _, _, _
  | .literal _, _, _, _, hanchored, _, _, _ | .dot, _, _, _, hanchored, _, _, _
  | .short _ _, _, _, _, hanchored, _, _, _ | .property _ _, _, _, _, hanchored, _, _, _
  | .bracketed _ _, _, _, _, hanchored, _, _, _
  | .repetition _ _ _ _, _, _, _, hanchored, _, _, _ => by cases hanchored

theorem Tree.partsOpen_of_headAnchored {table : PropertyTable} {allowed : Flag → Bool} :
    ∀ (ts : List Tree) {f f' : Flags} {es : List Expr}, Tree.isAnchored.headAnchored ts = true →
    f.Within allowed → Tree.AllWithin allowed ts →
    Tree.lower?.lowerAll? table f ts = some (es, f') →
    Expr.partsOpen (Expr.opensAmong (Look.isEdge allowed)) es = true
  | [], _, _, _, hanchored, _, _, _ => by cases hanchored
  | t :: ts, f, f', es, hanchored, hf, hts, h => by
      obtain ⟨e, f₁, rest, ht, hrest, rfl⟩ := Tree.lowerAll?_cons.1 h
      obtain ⟨hallowed, hothers⟩ := Tree.allWithin_cons.1 hts
      rcases Tree.headAnchored_cons hanchored with hfirst | ⟨⟨change, rfl⟩, hlater⟩
      · have hopens := Tree.opensAmong_of_isAnchored t hfirst hf hallowed ht
        simp only [Expr.partsOpen, hopens, Bool.true_or]
      · have hf₁ : f₁.Within allowed := Tree.within_of_lower? _ hf hallowed ht
        have hopens := Tree.partsOpen_of_headAnchored ts hlater hf₁ hothers hrest
        simp only [Tree.lower?, Option.some.injEq, Prod.mk.injEq] at ht
        obtain ⟨rfl, _⟩ := ht
        simpa [Expr.partsOpen, Expr.isVoid] using Or.inr hopens

theorem Tree.all_opensAmong_of_allAnchored {table : PropertyTable} {allowed : Flag → Bool} :
    ∀ (ts : List Tree) {f f' : Flags} {es : List Expr}, Tree.isAnchored.allAnchored ts = true →
    f.Within allowed → Tree.AllWithin allowed ts →
    Tree.lower?.lowerAll? table f ts = some (es, f') →
    es.all (Expr.opensAmong (Look.isEdge allowed)) = true
  | [], f, f', es, _, _, _, h => by
      simp only [Tree.lower?.lowerAll?, Option.some.injEq, Prod.mk.injEq] at h
      obtain ⟨rfl, _⟩ := h
      rfl
  | t :: ts, f, f', es, hanchored, hf, hts, h => by
      obtain ⟨e, f₁, rest, ht, hrest, rfl⟩ := Tree.lowerAll?_cons.1 h
      obtain ⟨hfirst, hlater⟩ : t.isAnchored = true ∧ Tree.isAnchored.allAnchored ts = true := by
        simpa [Tree.isAnchored.allAnchored] using hanchored
      obtain ⟨hallowed, hothers⟩ := Tree.allWithin_cons.1 hts
      have hf₁ : f₁.Within allowed := Tree.within_of_lower? t hf hallowed ht
      have hopens := Tree.opensAmong_of_isAnchored t hfirst hf hallowed ht
      have hrests := Tree.all_opensAmong_of_allAnchored ts hlater hf₁ hothers hrest
      simp only [List.all_cons, hopens, hrests, Bool.and_self]

end

/-- The end of a line and the beginning of the next one, with what ends the line between them:
a line feed, or under the other convention a carriage return, a line feed, or one of each in
this order. -/
inductive LineBreak (text : List Char) : (crlf : Bool) → Nat → Nat → Prop where
  | feed {i : Nat} : text[i]? = some '\n' → LineBreak text false i (i + 1)
  | both {i : Nat} :
      text[i]? = some '\r' → text[i + 1]? = some '\n' → LineBreak text true i (i + 2)
  | loneReturn {i : Nat} :
      text[i]? = some '\r' → text[i + 1]? ≠ some '\n' → LineBreak text true i (i + 1)
  | loneFeed {i : Nat} :
      text[i]? = some '\n' → (∀ j, i = j + 1 → text[j]? ≠ some '\r') →
      LineBreak text true i (i + 1)

/-- Whether a place is the beginning or the end of the text or, where `lines` count, of a line.
Line feeds always end lines, the other convention has to be allowed. -/
def AtEdge (lines crlf : Bool) (text : List Char) (k : Nat) : Prop :=
  k = 0 ∨ k = text.length ∨
    lines = true ∧ ∃ other i j, (other = true → crlf = true) ∧ LineBreak text other i j ∧
      (k = i ∨ k = j)

section Places

variable {allowed : Flag → Bool} {text : List Char} {k : Nat}

theorem Cursor.head?_after : (Cursor.after text k).rest.head? = text[k]? := by
  simp [Cursor.after, List.head?_drop]

theorem eq_zero_of_before (hk : k ≤ text.length) (hnone : (Cursor.after text k).before = none) :
    k = 0 := by
  simp only [Cursor.after, List.getLast?_eq_none_iff, List.take_eq_nil_iff] at hnone
  rcases hnone with hzero | rfl
  · exact hzero
  · simpa using hk

theorem Cursor.before_after {j : Nat} (hj : j < text.length) :
    (Cursor.after text (j + 1)).before = text[j]? := by
  simp [Cursor.after, List.getLast?_take, List.getElem?_eq_getElem hj]

theorem exists_of_before {c : Char} (hk : k ≤ text.length)
    (hsome : (Cursor.after text k).before = some c) : ∃ j, k = j + 1 ∧ text[j]? = some c := by
  cases k with
  | zero => simp [Cursor.after] at hsome
  | succ j =>
      rw [Cursor.before_after hk] at hsome
      exact ⟨j, rfl, hsome⟩

theorem eq_length_of_after (hk : k ≤ text.length) (hnone : text[k]? = none) : k = text.length :=
  Nat.le_antisymm hk (List.getElem?_eq_none_iff.1 hnone)

theorem exists_lineBreak_feed {j : Nat} (hfeed : text[j]? = some '\n') :
    ∃ i, LineBreak text true i (j + 1) := by
  by_cases hboth : ∃ i, j = i + 1 ∧ text[i]? = some '\r'
  · obtain ⟨i, rfl, hreturn⟩ := hboth
    exact ⟨i, .both hreturn hfeed⟩
  · exact ⟨j, .loneFeed hfeed fun i hj hreturn => hboth ⟨i, hj, hreturn⟩⟩

theorem exists_lineBreak_return {i : Nat} (hreturn : text[i]? = some '\r') :
    ∃ j, LineBreak text true i j := by
  by_cases hboth : text[i + 1]? = some '\n'
  · exact ⟨_, .both hreturn hboth⟩
  · exact ⟨_, .loneReturn hreturn hboth⟩

/-- A place at which one of the conditions holds that a first assertion can come to is at an
edge. -/
theorem atEdge_of_holds (hk : k ≤ text.length) {l : Look} (hedge : l.isEdge allowed = true)
    (hholds : l.holds (Cursor.after text k).before (Cursor.after text k).rest.head? = true) :
    AtEdge (allowed .multiLine) (allowed .crlf) text k := by
  rw [Cursor.head?_after] at hholds
  cases l with
  | startText => exact Or.inl (eq_zero_of_before hk (by simpa [Look.holds] using hholds))
  | endText =>
      exact Or.inr (Or.inl (eq_length_of_after hk (by simpa [Look.holds] using hholds)))
  | startLine lineEnd =>
      obtain ⟨hlines, rfl⟩ : allowed .multiLine = true ∧ lineEnd = 0x0A := by
        simpa [Look.isEdge] using hedge
      rcases Look.holds_startLine_feed.1 hholds with hnone | hbefore
      · exact Or.inl (eq_zero_of_before hk hnone)
      · obtain ⟨j, rfl, hfeed⟩ := exists_of_before hk hbefore
        exact Or.inr (Or.inr ⟨hlines, false, j, _, by simp, .feed hfeed, Or.inr rfl⟩)
  | endLine lineEnd =>
      obtain ⟨hlines, rfl⟩ : allowed .multiLine = true ∧ lineEnd = 0x0A := by
        simpa [Look.isEdge] using hedge
      rcases Look.holds_endLine_feed.1 hholds with hnone | hfeed
      · exact Or.inr (Or.inl (eq_length_of_after hk hnone))
      · exact Or.inr (Or.inr ⟨hlines, false, k, _, by simp, .feed hfeed, Or.inl rfl⟩)
  | startLineCrlf =>
      obtain ⟨hlines, hcrlf⟩ := Bool.and_eq_true_iff.1 hedge
      simp only [Look.holds, Bool.or_eq_true, Bool.and_eq_true, Option.isNone_iff_eq_none,
        decide_eq_true_eq, bne_iff_ne] at hholds
      rcases hholds with (hnone | hbefore) | ⟨hbefore, hlone⟩
      · exact Or.inl (eq_zero_of_before hk hnone)
      · obtain ⟨j, rfl, hfeed⟩ := exists_of_before hk hbefore
        obtain ⟨i, hbreak⟩ := exists_lineBreak_feed hfeed
        exact Or.inr (Or.inr ⟨hlines, true, i, _, fun _ => hcrlf, hbreak, Or.inr rfl⟩)
      -- A carriage return ends a line by itself unless a line feed is next.
      · obtain ⟨j, rfl, hreturn⟩ := exists_of_before hk hbefore
        exact Or.inr (Or.inr ⟨hlines, true, j, _, fun _ => hcrlf, .loneReturn hreturn hlone,
          Or.inr rfl⟩)
  | endLineCrlf =>
      obtain ⟨hlines, hcrlf⟩ := Bool.and_eq_true_iff.1 hedge
      simp only [Look.holds, Bool.or_eq_true, Bool.and_eq_true, Option.isNone_iff_eq_none,
        decide_eq_true_eq, bne_iff_ne] at hholds
      rcases hholds with (hnone | hreturn) | ⟨hfeed, hlone⟩
      · exact Or.inr (Or.inl (eq_length_of_after hk hnone))
      · obtain ⟨j, hbreak⟩ := exists_lineBreak_return hreturn
        exact Or.inr (Or.inr ⟨hlines, true, k, j, fun _ => hcrlf, hbreak, Or.inl rfl⟩)
      · refine Or.inr (Or.inr ⟨hlines, true, k, _, fun _ => hcrlf, .loneFeed hfeed ?_, Or.inl rfl⟩)
        rintro i rfl hreturn
        exact hlone ((Cursor.before_after hk).trans hreturn)
  | word edge unicode => cases hedge

end Places

end TwoWay.Regex

namespace TwoWay.Pattern

open Regex (AtEdge Cursor Flag)

variable {table : Regex.PropertyTable} {source : String} {p q : Pattern} {input : List Char}
  {m : Regex.Match}

theorem MadeOf.atEdge {reading : Regex.Reader.Reading}
    (hmade : MadeOf table .default source p reading reading p.regex.expr) {k : Nat}
    (hk : k ≤ input.length) (hmatch : p.regex.expr.matchAt? (Cursor.after input k) = some m) :
    AtEdge (reading.tree.switchesOn .multiLine) (reading.tree.switchesOn .crlf) input k := by
  let allowed (flag : Flag) : Bool :=
    Regex.Flags.default.isOn flag || reading.tree.switchesOn flag
  have hdefault : Regex.Flags.default.Within allowed :=
    ⟨fun flag hon => by simp [allowed, hon], rfl⟩
  have htree : reading.tree.Within allowed := fun flag hon => by simp [allowed, hon]
  obtain ⟨flags, hlower⟩ := hmade.lowered
  have hopens :=
    Regex.Tree.opensAmong_of_isAnchored reading.tree hmade.anchored hdefault htree hlower
  obtain ⟨l, hedge, hholds⟩ := Regex.Expr.holds_of_matchAt? hopens hmatch
  exact Regex.atEdge_of_holds hk hedge hholds

theorem isEmpty_of_matchAt?_end {e : Regex.Expr}
    (hmatch : e.matchAt? (Cursor.after input input.length) = some m) : m.isEmpty = true := by
  rw [← Cursor.stop_eq_after] at hmatch
  obtain ⟨hin, hstart⟩ := Regex.Expr.matchAt?_in (Regex.Cursor.in_stop input) hmatch
  apply hin.isEmpty
  rw [hstart]
  exact hin.stop.le

theorem start_or_empty_of_matchFront? {found : Pattern.Match} {taken : Nat}
    (hfront : q.matchFront? input = some (found, taken)) :
    found.start = 0 ∨ found.text = .string "" := by
  unfold matchFront? at hfront
  split at hfront
  · cases hfront
  · rename_i m hfind
    split at hfront
    · cases hfront
    · rename_i hkept
      simp only [Option.some.injEq, Prod.mk.injEq] at hfront
      obtain ⟨rfl, _⟩ := hfront
      by_cases hstart : m.span.start.offset = 0
      · exact Or.inl (by simp [report, hstart])
      · have hempty : m.span.start.offset = m.span.stop.offset := by
          simpa [hstart, Regex.Match.isEmpty] using hkept
        exact Or.inr (by simp [report, Regex.Match.text, Regex.Span.text, hempty])

theorem isSome_matchFront?_iff (hend : q.onlyAtEnd = startsAtEnd q.regex.expr)
    (hkept : ∀ m, q.regex.expr.Leftmost input m → m.span.start.offset = 0 ∨ m.isEmpty = true) :
    (q.matchFront? input).isSome = true ↔
      ∃ k ≤ input.length, (q.regex.expr.matchAt? (Cursor.after input k)).isSome = true := by
  constructor
  · intro hsome
    by_contra hnowhere
    have hnone : q.matchFront? input = none := by
      refine (matchFront?_eq_none hend).2 (Or.inl fun k hk => ?_)
      by_contra hmatch
      exact hnowhere ⟨k, hk, Option.isSome_iff_ne_none.2 hmatch⟩
    simp [hnone] at hsome
  · rintro ⟨k, hk, hmatch⟩
    rw [Option.isSome_iff_ne_none]
    intro hnone
    rcases (matchFront?_eq_none hend).1 hnone with hnowhere | ⟨m, hleftmost, haway, hfull⟩
    · simp [hnowhere k hk] at hmatch
    · rcases hkept m hleftmost with hfront | hempty
      · exact haway hfront
      · simp [hfull] at hempty

/-- Each match of a pattern that is made of a text begins at an edge of the text that it is matched
against, or of a line if some change of flags lets lines count. If none does, it begins at the
front or is the empty match at the end; so there is a match at the front just when there is one at
all, and none that is found is thrown away. In any case what is matched at the front begins there
or is empty. -/
theorem anchored_matches (hp : ofSource source table = .ok p) (hq : q = p ∨ q = p.asZeroWidth) :
    ∃ reading, Regex.Reader.readTree? false false source.toList = some reading ∧
      (∀ (input : List Char) (k : Nat) (m : Regex.Match), k ≤ input.length →
        q.regex.expr.matchAt? (Cursor.after input k) = some m →
        AtEdge (reading.tree.switchesOn .multiLine) (reading.tree.switchesOn .crlf) input k) ∧
      (reading.tree.switchesOn .multiLine = false → ∀ input : List Char,
        (∀ (k : Nat) (m : Regex.Match), k ≤ input.length →
          q.regex.expr.matchAt? (Cursor.after input k) = some m →
          k = 0 ∨ k = input.length ∧ m.isEmpty = true) ∧
        ((q.matchFront? input).isSome = true ↔
          ∃ k ≤ input.length, (q.regex.expr.matchAt? (Cursor.after input k)).isSome = true) ∧
        ∀ m, q.find? input = some m → (m.span.start.offset != 0 && !m.isEmpty) = false) ∧
      ∀ (input : List Char) (found : Pattern.Match) (taken : Nat),
        q.matchFront? input = some (found, taken) →
        found.start = 0 ∨ found.text = .string "" := by
  obtain ⟨reading, hmade⟩ := exists_madeOf_plain hp
  have hexpr : q.regex.expr = p.regex.expr := by rcases hq with rfl | rfl <;> rfl
  have hend : q.onlyAtEnd = startsAtEnd q.regex.expr := by
    rcases hq with rfl | rfl <;> exact hmade.onlyAtEnd
  have hedge (input : List Char) (k : Nat) (m : Regex.Match) (hk : k ≤ input.length)
      (hmatch : q.regex.expr.matchAt? (Cursor.after input k) = some m) :
      AtEdge (reading.tree.switchesOn .multiLine) (reading.tree.switchesOn .crlf) input k := by
    rw [hexpr] at hmatch
    exact hmade.atEdge hk hmatch
  refine ⟨reading, hmade.read, hedge, ?_, fun input found taken => start_or_empty_of_matchFront?⟩
  intro hlines input
  have hends (k : Nat) (m : Regex.Match) (hk : k ≤ input.length)
      (hmatch : q.regex.expr.matchAt? (Cursor.after input k) = some m) :
      k = 0 ∨ k = input.length ∧ m.isEmpty = true := by
    rcases hedge input k m hk hmatch with hfront | rfl | ⟨hon, _⟩
    · exact Or.inl hfront
    · exact Or.inr ⟨rfl, isEmpty_of_matchAt?_end hmatch⟩
    · rw [hlines] at hon
      cases hon
  have hkept (m : Regex.Match) (hleftmost : q.regex.expr.Leftmost input m) :
      m.span.start.offset = 0 ∨ m.isEmpty = true :=
    (hends _ m hleftmost.le hleftmost.found).imp_right And.right
  refine ⟨hends, isSome_matchFront?_iff hend hkept, ?_⟩
  intro m hfind
  rcases hkept m ((find?_eq_some hend).1 hfind) with hfront | hempty
  · simp [hfront]
  · simp [hempty]

/-- The front of the text, or its end with the flag for lines switched off in a group. In a text
of two lines all matches lie at the two ends, and there is one at the front. -/
theorem anchored_matches_ends :
    ∃ p, ofSource "(?s:^a)|(?-m:$)" = .ok p ∧
      (p.matchFront? ['b', '\n', 'a']).isSome = true ∧
      ∀ (k : Nat) (m : Regex.Match), k ≤ 3 →
        p.regex.expr.matchAt? (Cursor.after ['b', '\n', 'a'] k) = some m →
        k = 0 ∨ k = 3 ∧ m.isEmpty = true := by
  have hend : ((ofSource "(?s:^a)|(?-m:$)").toOption.map fun p =>
      (p.regex.expr.matchAt? (Cursor.after ['b', '\n', 'a'] 3)).isSome) = some true := by
    decide +kernel
  have hlines : ((Regex.Reader.readTree? false false "(?s:^a)|(?-m:$)".toList).map fun reading =>
      reading.tree.switchesOn .multiLine) = some false := by
    decide +kernel
  obtain ⟨p, hp, hmatch⟩ := exists_of_seen hend
  obtain ⟨reading, hread, _, hfront, _⟩ := anchored_matches hp (Or.inl rfl)
  rw [hread] at hlines
  have hoff : reading.tree.switchesOn .multiLine = false := Option.some.inj hlines
  obtain ⟨hends, hsome, _⟩ := hfront hoff ['b', '\n', 'a']
  exact ⟨p, hp, hsome.2 ⟨3, Nat.le_refl 3, hmatch⟩, hends⟩

end TwoWay.Pattern
