import TwoWay.Proofs.Forward.Attempt
import TwoWay.Proofs.Regex.Span
import TwoWay.Proofs.StraightLine.Item

/-!
A straight line over a text. Its requests are answered as the items can be read off the
text one after another. Over what the items spell with a needle's texts, the literals
are always read, and a pattern leaves what is spelled after it just when it matches the
needle's text.
-/

namespace TwoWay

variable {M : Type}

namespace Forward

/-- The fields that items give over a text, and what they leave of it. -/
def readAll : List Item → List Char → Option (List (String × Value) × List Char)
  | [], input => some ([], input)
  | .literal text :: rest, input =>
      match Text.dropLiteral? text.toList input with
      | none => none
      | some remaining => readAll rest remaining
  | .pattern key p :: rest, input =>
      match p.matchFront? input with
      | none => none
      | some (found, taken) =>
          match readAll rest (input.drop taken) with
          | none => none
          | some (fields, left) => some ((key, found.text) :: fields, left)

theorem keys_readAll {items : List Item} {input left : List Char}
    {fields : List (String × Value)} (hread : readAll items input = some (fields, left)) :
    Bindings.keys fields = Item.keys items := by
  induction items generalizing input fields with
  | nil =>
      obtain ⟨rfl, _⟩ := Prod.mk.inj (Option.some.inj hread)
      rfl
  | cons item rest ih =>
      cases item with
      | literal text =>
          simp only [readAll] at hread
          split at hread
          · cases hread
          · exact ih hread
      | pattern key p =>
          simp only [readAll] at hread
          split at hread
          · cases hread
          · split at hread
            · cases hread
            · rename_i hrest
              obtain ⟨rfl, rfl⟩ := Prod.mk.inj (Option.some.inj hread)
              exact congrArg (key :: ·) (ih hrest)

section Run

variable {run : Runner M} {constants : List (String × Value)} {items : List Item}
  {input : List Char}

theorem run_of_readAll (found : List (String × Value)) {fields : List (String × Value)}
    {left : List Char} (hread : readAll items input = some (fields, left)) (step : Nat)
    (memory : M) :
    ∃ step', (Item.askAll constants items found).run (session run) ⟨input, step, none⟩ memory =
      some (.ok (.record (found ++ fields ++ constants)), ⟨left, step', none⟩, memory) := by
  induction items generalizing found input fields step with
  | nil =>
      obtain ⟨rfl, rfl⟩ := Prod.mk.inj (Option.some.inj hread)
      refine ⟨step, ?_⟩
      rw [List.append_nil]
      rfl
  | cons item rest ih =>
      cases item with
      | literal text =>
          simp only [readAll] at hread
          split at hread
          · cases hread
          · rename_i remaining hdrop
            have hfirst : attempt run input (.literal text) memory =
                some (.ok (.literal text, remaining), memory) := by
              simp only [attempt, hdrop]
            have hstep : session run (.literal text) ⟨input, step, none⟩ memory =
                some (.ok (.literal text), ⟨remaining, step + 1, none⟩, memory) :=
              session_of_attempt rfl rfl .nil hfirst
            rw [Item.run_literal_ok hstep]
            exact ih found hread (step + 1)
      | pattern key p =>
          simp only [readAll] at hread
          split at hread
          · cases hread
          · rename_i answer taken hfront
            split at hread
            · cases hread
            · rename_i fields' left' hrest
              obtain ⟨rfl, rfl⟩ := Prod.mk.inj (Option.some.inj hread)
              have hfirst : attempt run input (.pattern p) memory =
                  some (.ok (.pattern answer, input.drop taken), memory) := by
                simp only [attempt, hfront]
              have hstep : session run (.pattern p) ⟨input, step, none⟩ memory =
                  some (.ok (.pattern answer), ⟨input.drop taken, step + 1, none⟩, memory) :=
                session_of_attempt rfl rfl .nil hfirst
              -- What was found so far grows by one field, so the induction is for any of it.
              obtain ⟨step', hrun⟩ := ih (found ++ [(key, answer.text)]) hrest (step + 1)
              refine ⟨step', ?_⟩
              rw [Item.run_pattern_ok hstep, hrun]
              simp

theorem run_of_unread {found : List (String × Value)} (hread : readAll items input = none)
    (step : Nat) (memory : M) :
    ∃ frame, (Item.askAll constants items found).run (session run) ⟨input, step, none⟩ memory =
      some (.error .mismatch, frame, memory) := by
  induction items generalizing found input step with
  | nil => cases hread
  | cons item rest ih =>
      cases item with
      | literal text =>
          simp only [readAll] at hread
          split at hread
          · rename_i hdrop
            have hfirst : attempt run input (.literal text) memory =
                some (.error none, memory) := by
              simp only [attempt, hdrop]
            exact ⟨_, Item.run_literal_error (session_of_declined rfl (.cons hfirst .nil))⟩
          · rename_i remaining hdrop
            have hfirst : attempt run input (.literal text) memory =
                some (.ok (.literal text, remaining), memory) := by
              simp only [attempt, hdrop]
            rw [Item.run_literal_ok (session_of_attempt rfl rfl .nil hfirst)]
            exact ih hread (step + 1)
      | pattern key p =>
          simp only [readAll] at hread
          split at hread
          · rename_i hfront
            have hfirst : attempt run input (.pattern p) memory = some (.error none, memory) := by
              simp only [attempt, hfront]
            exact ⟨_, Item.run_pattern_error (session_of_declined rfl (.cons hfirst .nil))⟩
          · rename_i answer taken hfront
            split at hread
            · rename_i hrest
              have hfirst : attempt run input (.pattern p) memory =
                  some (.ok (.pattern answer, input.drop taken), memory) := by
                simp only [attempt, hfront]
              rw [Item.run_pattern_ok (session_of_attempt rfl rfl .nil hfirst)]
              exact ih hrest (step + 1)
            · cases hread

end Run

theorem parse_line {grammar : Grammar M} {r : Rule} {line : Line} (hbody : grammar r.id = line.body)
    {depth : Nat} {input left : List Char} {memory : M} {value : Value} :
    parse grammar (depth + 1) r input memory = some (⟨left, .ok value⟩, memory) ↔
      ∃ fields, readAll line.items input = some (fields, left) ∧
        value = .record (fields ++ line.constants) := by
  rw [parse_succ, hbody, Line.body, Frame.start]
  cases hread : readAll line.items input with
  | none =>
      obtain ⟨frame, hrun⟩ : ∃ frame, (Item.askAll line.constants line.items []).run
          (session (parse grammar depth)) ⟨input, 0, none⟩ memory =
            some (.error .mismatch, frame, memory) := run_of_unread hread 0 memory
      rw [hrun]
      constructor
      · intro hended
        obtain ⟨hfinish, _⟩ := Prod.mk.inj (Option.some.inj hended)
        have hok : (frame.finish (.error .mismatch)).outcome = .ok value := by
          rw [hfinish]
        cases (finish_eq_ok.1 hok).2
      · rintro ⟨fields, hfields, _⟩
        cases hfields
  | some found =>
      obtain ⟨fields, left'⟩ := found
      obtain ⟨step, hrun⟩ : ∃ step, (Item.askAll line.constants line.items []).run
          (session (parse grammar depth)) ⟨input, 0, none⟩ memory =
            some (.ok (.record (fields ++ line.constants)), ⟨left', step, none⟩, memory) :=
        run_of_readAll [] hread 0 memory
      rw [hrun]
      constructor
      · intro hended
        obtain ⟨hfinish, _⟩ := Prod.mk.inj (Option.some.inj hended)
        obtain ⟨rfl, hvalue⟩ := Result.mk.inj hfinish
        exact ⟨fields, rfl, (Except.ok.inj hvalue).symm⟩
      · rintro ⟨fields', hfields, rfl⟩
        obtain ⟨rfl, rfl⟩ := Prod.mk.inj (Option.some.inj hfields)
        rfl

section Spelled

variable {needle : Needle}

theorem dropLiteral?_spellAll (text : String) (rest : List Item) :
    Text.dropLiteral? text.toList (Item.spellAll needle (.literal text :: rest)).toList =
      some (Item.spellAll needle rest).toList :=
  Text.dropLiteral?_eq_some.2 (Item.toList_spellAll_cons needle _ rest)

theorem drop_spellAll {key : String} {p : Pattern} {rest : List Item} {found : Pattern.Match}
    {taken : Nat} (hzero : p.zeroWidth = false)
    (hfront : p.matchFront? (Item.spellAll needle (.pattern key p :: rest)).toList =
      some (found, taken))
    (htext : found.text = .string (Item.textOf needle key)) :
    (Item.spellAll needle (.pattern key p :: rest)).toList.drop taken =
      (Item.spellAll needle rest).toList := by
  have hchars : found.chars = (Item.textOf needle key).toList := by
    simp [Pattern.Match.chars, Pattern.Match.string?, htext, Value.string?]
  have hspell := Item.toList_spellAll_cons needle (.pattern key p) rest
  rw [hspell] at hfront ⊢
  exact Pattern.drop_of_matchFront? hzero hfront hchars

/-- Items that retake their texts are read off what they spell, up to its end. -/
theorem readAll_of_retake {items : List Item}
    (hconsuming : ∀ key p, .pattern key p ∈ items → p.zeroWidth = false)
    (hretake : Item.Retake needle items) :
    readAll items (Item.spellAll needle items).toList =
      some ((Item.keys items).map fun key => (key, .string (Item.textOf needle key)), []) := by
  induction items with
  | nil => rfl
  | cons item rest ih =>
      have hrest : ∀ key p, .pattern key p ∈ rest → p.zeroWidth = false := fun key p hmem =>
        hconsuming key p (List.mem_cons_of_mem _ hmem)
      cases item with
      | literal text =>
          simp only [readAll, dropLiteral?_spellAll]
          exact ih hrest (Item.retake_literal.1 hretake)
      | pattern key p =>
          obtain ⟨⟨found, taken, hfront, htext⟩, hrestRetake⟩ := Item.retake_pattern.1 hretake
          have hzero : p.zeroWidth = false := hconsuming key p List.mem_cons_self
          have hleft := drop_spellAll hzero hfront htext
          simp only [readAll, hfront, hleft, ih hrest hrestRetake, htext]
          rfl

/-- Items that are read off what they spell, each pattern with the needle's text, retake
their texts. -/
theorem retake_of_readAll {items : List Item}
    (hconsuming : ∀ key p, .pattern key p ∈ items → p.zeroWidth = false)
    {fields : List (String × Value)} {left : List Char}
    (hread : readAll items (Item.spellAll needle items).toList = some (fields, left))
    (hfields : ∀ field ∈ fields, field.2 = .string (Item.textOf needle field.1)) :
    Item.Retake needle items := by
  induction items generalizing fields with
  | nil => exact Item.retake_nil needle
  | cons item rest ih =>
      have hrest : ∀ key p, .pattern key p ∈ rest → p.zeroWidth = false := fun key p hmem =>
        hconsuming key p (List.mem_cons_of_mem _ hmem)
      cases item with
      | literal text =>
          simp only [readAll, dropLiteral?_spellAll] at hread
          exact Item.retake_literal.2 (ih hrest hread hfields)
      | pattern key p =>
          simp only [readAll] at hread
          split at hread
          · cases hread
          · rename_i found taken hfront
            split at hread
            · cases hread
            · rename_i fields' left' hafter
              obtain ⟨rfl, rfl⟩ := Prod.mk.inj (Option.some.inj hread)
              obtain ⟨htext, hfields'⟩ := List.forall_mem_cons.1 hfields
              have hzero : p.zeroWidth = false := hconsuming key p List.mem_cons_self
              rw [drop_spellAll hzero hfront htext] at hafter
              exact Item.retake_pattern.2 ⟨⟨found, taken, hfront, htext⟩, ih hrest hafter hfields'⟩

end Spelled

end Forward

end TwoWay
