import TwoWay.Grammar.Standard
import TwoWay.Script.Statement

/-!
Rules by their definitions: scripts and combinators, put together into a
grammar.
-/

namespace TwoWay.Script

inductive Definition where
  | script (statements : List Statement)
  | has (item : Node)
  | optional (items : List Node)
  | sequence (nodes : List Node)
  | mustEnd
  | hasMore
  | isEnd

/-- Rules with their definitions, and the first identity that is free. -/
structure Library where
  definitions : List (Rule × Definition)
  free : Nat

namespace Library

def mustEnd : Rule := ⟨0, "must_end"⟩

def hasMore : Rule := ⟨1, "has_more"⟩

def isEnd : Rule := ⟨2, "is_end"⟩

def start : Library := ⟨[(mustEnd, .mustEnd), (hasMore, .hasMore), (isEnd, .isEnd)], 3⟩

def declare (name : String) (lib : Library) : Rule × Library :=
  (⟨lib.free, name⟩, { lib with free := lib.free + 1 })

def define (r : Rule) (d : Definition) (lib : Library) : Library :=
  { lib with definitions := (r, d) :: lib.definitions }

def add (name : String) (d : Definition) (lib : Library) : Rule × Library :=
  let (r, lib) := lib.declare name
  (r, lib.define r d)

def has (item : Node) : Library → Rule × Library := add "has" (.has item)

def optional (items : List Node) : Library → Rule × Library := add "optional" (.optional items)

def sequence (nodes : List Node) : Library → Rule × Library := add "sequence" (.sequence nodes)

/-- The body of the rule with an identity. `fuel` bounds the statements that it
runs, and how deep rules are run inside each other on one session. -/
def body (lib : Library) : (fuel : Nat) → (id : Nat) → Body Memory Outcome
  | 0, _ => .stuck
  | fuel + 1, id =>
      match lib.definitions.find? (·.1.id == id) with
      | none => .stuck
      | some (r, d) =>
          match d with
          | .script statements =>
              Script.body (fun r => lib.body fuel r.id) r.name fuel statements
          | .has item => Standard.has item
          | .optional items => Standard.optional items
          | .sequence nodes => Standard.sequence nodes
          | .mustEnd => Standard.mustEnd
          | .hasMore => Standard.hasMore
          | .isEnd => Standard.isEnd

/-- What holds of a script when it holds of all that the script may run in place, and of the
combinators, holds of all bodies of a library. By induction on the fuel, which bounds how deep
rules are run in place. -/
theorem body_induction {lib : Library} {P : Body Memory Outcome → Prop} (hstuck : P .stuck)
    (hscript : ∀ {inline : Rule → Body Memory Outcome}, (∀ r, P (inline r)) →
      ∀ {r statements}, (r, .script statements) ∈ lib.definitions →
        ∀ fuel, P (Script.body inline r.name fuel statements))
    (hhas : ∀ item, P (Standard.has item)) (hoptional : ∀ items, P (Standard.optional items))
    (hsequence : ∀ nodes, P (Standard.sequence nodes)) (hmustEnd : P Standard.mustEnd)
    (hhasMore : P Standard.hasMore) (hisEnd : P Standard.isEnd) (fuel id : Nat) :
    P (lib.body fuel id) := by
  induction fuel generalizing id with
  | zero => exact hstuck
  | succ fuel ih =>
      unfold body
      cases hfind : lib.definitions.find? (·.1.id == id) with
      | none => exact hstuck
      | some entry =>
          obtain ⟨r, d⟩ := entry
          have hmem := List.mem_of_find?_eq_some hfind
          cases d with
          | script statements => exact hscript (fun r => ih r.id) hmem fuel
          | has item => exact hhas item
          | optional items => exact hoptional items
          | sequence nodes => exact hsequence nodes
          | mustEnd => exact hmustEnd
          | hasMore => exact hhasMore
          | isEnd => exact hisEnd

def grammar (lib : Library) (fuel : Nat) : Grammar Memory := lib.body fuel

end Library

end TwoWay.Script
