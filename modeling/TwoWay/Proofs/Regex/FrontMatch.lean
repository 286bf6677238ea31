import TwoWay.Proofs.Regex.Leftmost

/-!
What a pattern matches at the front of a text, read off the leftmost match of its expression
in the whole text. Whether a pattern is tried at the end of the text alone is decided once,
from the form of the expression that its own text shows; for a pattern that is made of a text
this is the expression that is matched, and the short cut finds just what a search would.
-/

namespace TwoWay.Pattern

open Regex (Cursor)

variable {table : Regex.PropertyTable} {source : String} {p q : Pattern} {input : List Char}
  {m : Regex.Match}

/-- What making a pattern takes: the text is read and lowered with the options for the
expression that is matched, and once more without them for the two checks. -/
structure MadeOf (table : Regex.PropertyTable) (options : Regex.Options) (source : String)
    (p : Pattern) (reading plain : Regex.Reader.Reading) (expr : Regex.Expr) : Prop where
  read : Regex.Reader.readTree? options.spaced options.octal source.toList options.nesting =
    some reading
  lowered : ∃ flags, reading.tree.lower? table options.flags = some (p.regex.expr, flags)
  readPlain : Regex.Reader.readTree? false false source.toList = some plain
  anchored : plain.tree.isAnchored = true
  loweredPlain : ∃ flags, plain.tree.lower? table .default = some (expr, flags)
  onlyAtEnd : p.onlyAtEnd = startsAtEnd expr
  takesInput : p.zeroWidth = false

theorem exists_madeOf {options : Regex.Options} (hp : ofSourceWith options source table = .ok p) :
    ∃ reading plain expr, MadeOf table options source p reading plain expr := by
  unfold ofSourceWith at hp
  split at hp
  · cases hp
  · rename_i regex hcompile
    simp only [Regex.compile?, Option.bind_eq_bind, Option.bind_eq_some_iff, Option.pure_def,
      Option.some.injEq] at hcompile
    obtain ⟨reading, hread, ⟨compiled, flags⟩, hlower, rfl⟩ := hcompile
    unfold ofRegex at hp
    split at hp
    · cases hp
    · rename_i plain hplain
      split at hp
      · cases hp
      · rename_i hanchored
        split at hp
        · cases hp
        · rename_i expr flags' hexpr
          obtain rfl := Except.ok.inj hp
          exact ⟨reading, plain, expr, hread, ⟨flags, hlower⟩, hplain, by simpa using hanchored,
            ⟨flags', hexpr⟩, rfl, rfl⟩

theorem exists_madeOf_plain (hp : ofSource source table = .ok p) :
    ∃ reading, MadeOf table .default source p reading reading p.regex.expr := by
  obtain ⟨reading, plain, expr, hmade⟩ := @exists_madeOf table source p .default hp
  obtain rfl : reading = plain := Option.some.inj (hmade.read.symm.trans hmade.readPlain)
  obtain ⟨flags, hlower⟩ := hmade.lowered
  obtain ⟨flags', hexpr⟩ := hmade.loweredPlain
  obtain ⟨rfl, _⟩ := Prod.mk.inj (Option.some.inj (hlower.symm.trans hexpr))
  exact ⟨reading, hmade⟩

theorem ok_of_toOption {made : Except Defect Pattern} (h : made.toOption = some p) :
    made = .ok p := by
  cases made with
  | error defect => cases h
  | ok made => exact congrArg Except.ok (Option.some.inj h)

/-- A pattern was made if something is seen of it. -/
theorem exists_of_seen {α : Type} {made : Except Defect Pattern} {view : Pattern → α} {seen : α}
    (h : made.toOption.map view = some seen) : ∃ p, made = .ok p ∧ view p = seen := by
  obtain ⟨p, hmade, hview⟩ := Option.map_eq_some_iff.1 h
  exact ⟨p, ok_of_toOption hmade, hview⟩

/-- The short cut is sound: what is tried at the end alone opens with the end of the text. -/
theorem find?_eq_some (hend : q.onlyAtEnd = startsAtEnd q.regex.expr) :
    q.find? input = some m ↔ q.regex.expr.Leftmost input m := by
  unfold find?
  split
  · rename_i honly
    have hopens : q.regex.expr.opensWith .endText = true := by
      rw [hend] at honly
      unfold startsAtEnd at honly
      exact (Bool.and_eq_true_iff.1 honly).1
    exact Regex.Expr.matchAtEnd?_eq_some hopens
  · exact Regex.Expr.search?_eq_some

theorem find?_eq_search? (hend : q.onlyAtEnd = startsAtEnd q.regex.expr) :
    q.find? input = q.regex.expr.search? input := by
  ext m
  rw [find?_eq_some hend, Regex.Expr.search?_eq_some]

theorem matchFront?_of_find? (hfind : q.find? input = some m)
    (hcounts : m.span.start.offset = 0 ∨ m.isEmpty = true) :
    ∃ taken, q.matchFront? input = some (q.report input m, taken) ∧
      Text.byteLength (input.take taken) =
        if m.span.start.offset = 0 ∧ q.zeroWidth = false then Text.byteLength m.text else 0 := by
  have hin := find?_in hfind
  have hkept : (m.span.start.offset != 0 && !m.isEmpty) = false := by
    rcases hcounts with hstart | hempty
    · simp [hstart]
    · simp [hempty]
  unfold matchFront?
  simp only [hfind, hkept, Bool.false_eq_true, if_false]
  refine ⟨_, rfl, ?_⟩
  by_cases hstart : m.span.start.offset = 0
  · cases hzero : q.zeroWidth with
    | true => simp [hstart]
    | false => simp [hstart, hin.text_eq]
  · simp [hstart]

/-- When nothing is matched at the front: the expression matches nowhere, or its leftmost match
takes characters and lies away from the front. -/
theorem matchFront?_eq_none (hend : q.onlyAtEnd = startsAtEnd q.regex.expr) :
    q.matchFront? input = none ↔
      (∀ k ≤ input.length, q.regex.expr.matchAt? (Cursor.after input k) = none) ∨
      ∃ m, q.regex.expr.Leftmost input m ∧ m.span.start.offset ≠ 0 ∧ m.isEmpty = false := by
  cases hfind : q.find? input with
  | none =>
      have hnowhere : q.regex.expr.search? input = none := by
        rw [← find?_eq_search? hend, hfind]
      have hnone : q.matchFront? input = none := by simp [matchFront?, hfind]
      exact iff_of_true hnone (Or.inl (Regex.Expr.search?_eq_none.1 hnowhere))
  | some m =>
      have hleftmost := (find?_eq_some hend).1 hfind
      constructor
      · intro hnone
        refine Or.inr ⟨m, hleftmost, ?_⟩
        by_contra hcounts
        have hkept : m.span.start.offset = 0 ∨ m.isEmpty = true := by
          by_cases hstart : m.span.start.offset = 0
          · exact Or.inl hstart
          · exact Or.inr (by simpa [hstart] using hcounts)
        obtain ⟨_, hsome, _⟩ := matchFront?_of_find? hfind hkept
        rw [hnone] at hsome
        cases hsome
      · rintro (hnowhere | ⟨m', hleftmost', haway, hfull⟩)
        · have hnone := hnowhere _ hleftmost.le
          rw [hleftmost.found] at hnone
          cases hnone
        · have hsame := ((find?_eq_some hend).2 hleftmost').symm.trans hfind
          obtain rfl := Option.some.inj hsame
          simp [matchFront?, hfind, haway, hfull]

end TwoWay.Pattern
