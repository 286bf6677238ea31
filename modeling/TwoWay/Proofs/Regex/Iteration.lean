import TwoWay.Proofs.Regex.Span

/-!
The matches of a text, one after another. Each is searched for where the one before ended, and
an empty one does not count there, so that the iteration moves on: of all matches only the first
can begin at the front of the text. To ask whether some match is the whole text is therefore to
ask it of the first.
-/

namespace TwoWay.Regex.Expr

variable {e : Expr} {text : List Char} {c : Cursor} {last : Option Nat} {m m' : Match}

theorem le_start_of_searchFrom? {rest : List Char} {offset : Nat} {before : Option Char}
    (hsearch : e.searchFrom? offset before rest = some m) : offset ≤ m.span.start.offset := by
  induction rest generalizing offset before with
  | nil =>
      obtain ⟨_, _, rfl⟩ := Option.map_eq_some_iff.1 hsearch
      exact Nat.le_refl _
  | cons d rest ih =>
      rw [searchFrom?] at hsearch
      cases hat : e.matchAt? ⟨offset, before, d :: rest⟩ with
      | some found =>
          obtain ⟨_, _, rfl⟩ := Option.map_eq_some_iff.1 hat
          rw [hat] at hsearch
          obtain rfl := Option.some.inj hsearch
          exact Nat.le_refl _
      | none =>
          rw [hat] at hsearch
          exact Nat.le_of_succ_le (ih hsearch)

theorem nextMatch?_cases (hnext : e.nextMatch? last c = some m) :
    (e.searchFrom? c.offset c.before c.rest = some m ∧
      (m.isEmpty = true → last ≠ some m.span.stop.offset)) ∨
    ∃ d rest, c.rest = d :: rest ∧ e.searchFrom? (c.offset + 1) (some d) rest = some m := by
  unfold nextMatch? at hnext
  split at hnext
  · cases hnext
  · rename_i found hfound
    split at hnext
    · split at hnext
      · cases hnext
      · rename_i d rest hrest
        exact Or.inr ⟨d, rest, hrest, hnext⟩
    · rename_i hcounts
      obtain rfl := Option.some.inj hnext
      exact Or.inl ⟨hfound, by simpa using hcounts⟩

theorem nextMatch?_in (hin : c.In text) (hnext : e.nextMatch? last c = some m) :
    m.In text ∧ c.offset ≤ m.span.start.offset := by
  rcases nextMatch?_cases hnext with ⟨hsearch, _⟩ | ⟨d, rest, hrest, hsearch⟩
  · exact ⟨searchFrom?_in hin hsearch, le_start_of_searchFrom? hsearch⟩
  · exact ⟨searchFrom?_in (hin.next hrest) hsearch,
      Nat.le_of_succ_le (le_start_of_searchFrom? hsearch)⟩

theorem lt_stop_of_nextMatch? (hin : c.In text) (hnext : e.nextMatch? (some c.offset) c = some m) :
    c.offset < m.span.stop.offset := by
  obtain ⟨hmatch, hstart⟩ := nextMatch?_in hin hnext
  have hle := hmatch.le
  rcases nextMatch?_cases hnext with ⟨_, hcounts⟩ | ⟨_, _, _, hsearch⟩
  · rcases Nat.lt_or_ge c.offset m.span.stop.offset with hforth | hback
    · exact hforth
    · have hsame : c.offset = m.span.stop.offset := by omega
      exact absurd (congrArg some hsame) (hcounts (hmatch.isEmpty (by omega)))
  · have hfurther := le_start_of_searchFrom? hsearch
    omega

/-- As many matches as there are places left are all that there are. By induction on how many
are asked for, since each ends further on than the one before. -/
theorem matchesFrom_eq_of_le {fuel more : Nat} (hin : c.In text)
    (hfuel : text.length ≤ c.offset + fuel) (hmore : text.length ≤ c.offset + more) :
    e.matchesFrom fuel (some c.offset) c = e.matchesFrom more (some c.offset) c := by
  induction fuel generalizing more c with
  | zero =>
      cases more with
      | zero => rfl
      | succ more =>
          cases hnext : e.nextMatch? (some c.offset) c with
          | none => simp only [matchesFrom, hnext]
          | some m =>
              -- A match would have to end beyond the end of the text.
              have hforth := lt_stop_of_nextMatch? hin hnext
              have hle := (nextMatch?_in hin hnext).1.stop.le
              omega
  | succ fuel ih =>
      cases hnext : e.nextMatch? (some c.offset) c with
      | none => cases more <;> simp only [matchesFrom, hnext]
      | some m =>
          have hforth := lt_stop_of_nextMatch? hin hnext
          have hstop := (nextMatch?_in hin hnext).1.stop
          have hle := hstop.le
          obtain ⟨more, rfl⟩ : ∃ rest, more = rest + 1 := ⟨more - 1, by omega⟩
          have hrest := @ih m.span.stop more hstop (by omega) (by omega)
          simp only [matchesFrom, hnext, hrest]

theorem allMatches_eq {fuel : Nat} (hfuel : text.length < fuel) :
    e.matchesFrom fuel none ⟨0, none, text⟩ = e.allMatches text := by
  obtain ⟨fuel, rfl⟩ : ∃ rest, fuel = rest + 1 := ⟨fuel - 1, by omega⟩
  unfold allMatches
  cases hnext : e.nextMatch? none ⟨0, none, text⟩ with
  | none => simp only [matchesFrom, hnext]
  | some m =>
      have hstop := (nextMatch?_in (Cursor.in_start text) hnext).1.stop
      have hrest : e.matchesFrom fuel (some m.span.stop.offset) m.span.stop =
          e.matchesFrom text.length (some m.span.stop.offset) m.span.stop :=
        matchesFrom_eq_of_le hstop (by omega) (by omega)
      simp only [matchesFrom, hnext, hrest]

end TwoWay.Regex.Expr

namespace TwoWay.Pattern

variable {p : Pattern} {text : List Char}

end TwoWay.Pattern
