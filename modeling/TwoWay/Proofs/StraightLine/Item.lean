import TwoWay.Grammar.Body
import TwoWay.Needle

/-!
Straight lines: rules that ask for texts and patterns in order and come to a record
of what the patterns matched, with some constant fields beside. A line asks alike
whatever its session is; how it goes on after an answer is said here once for both
directions.
-/

namespace TwoWay

variable {M : Type}

/-- One request of a straight line. -/
inductive Item where
  | literal (text : String)
  /-- What the pattern matches becomes the field under `key`. -/
  | pattern (key : String) (p : Pattern)

namespace Item

def keys : List Item → List String
  | [] => []
  | .literal _ :: rest => keys rest
  | .pattern key _ :: rest => key :: keys rest

theorem mem_keys {key : String} {p : Pattern} {items : List Item}
    (h : Item.pattern key p ∈ items) : key ∈ keys items := by
  induction items with
  | nil => cases h
  | cons item rest ih =>
      cases item with
      | literal text => exact ih (by simpa using h)
      | pattern key' p' =>
          rcases List.mem_cons.1 h with heq | hrest
          · obtain ⟨rfl, rfl⟩ := Item.pattern.inj heq
            exact List.mem_cons_self
          · exact List.mem_cons_of_mem _ (ih hrest)

theorem exists_pattern {key : String} {items : List Item} (h : key ∈ keys items) :
    ∃ p, Item.pattern key p ∈ items := by
  induction items with
  | nil => cases h
  | cons item rest ih =>
      cases item with
      | literal text =>
          obtain ⟨p, hitem⟩ := ih h
          exact ⟨p, List.mem_cons_of_mem _ hitem⟩
      | pattern key' p' =>
          rcases List.mem_cons.1 h with rfl | hrest
          · exact ⟨p', List.mem_cons_self⟩
          · obtain ⟨p, hitem⟩ := ih hrest
            exact ⟨p, List.mem_cons_of_mem _ hitem⟩

/-- The needle's text under a key, if it has one there. -/
def textOf (needle : Needle) (key : String) : String :=
  ((needle.get? key).bind Value.string?).getD ""

/-- The text of an item, a pattern's being that of the needle's field. -/
def spell (needle : Needle) : Item → String
  | .literal text => text
  | .pattern key _ => textOf needle key

def spellAll (needle : Needle) (items : List Item) : String :=
  String.join (items.map (spell needle))

theorem toList_spellAll_cons (needle : Needle) (item : Item) (rest : List Item) :
    (spellAll needle (item :: rest)).toList =
      (spell needle item).toList ++ (spellAll needle rest).toList := by
  simp [spellAll, String.join_cons]

/-- Whether each pattern matches its own text again over what is spelled from it on. -/
def Retake (needle : Needle) (items : List Item) : Prop :=
  ∀ before key p after, items = before ++ .pattern key p :: after →
    ∃ found taken,
      p.matchFront? (spellAll needle (.pattern key p :: after)).toList = some (found, taken) ∧
      found.text = .string (textOf needle key)

theorem retake_nil (needle : Needle) : Retake needle [] := by
  intro before key p after hsplit
  simp at hsplit

theorem retake_literal {needle : Needle} {text : String} {rest : List Item} :
    Retake needle (.literal text :: rest) ↔ Retake needle rest := by
  constructor
  · intro h before key p after hsplit
    exact h (.literal text :: before) key p after (congrArg _ hsplit)
  · intro h before key p after hsplit
    cases before with
    | nil => cases hsplit
    | cons first before => exact h before key p after (List.cons.inj hsplit).2

theorem retake_pattern {needle : Needle} {key : String} {p : Pattern} {rest : List Item} :
    Retake needle (.pattern key p :: rest) ↔
      (∃ found taken,
        p.matchFront? (spellAll needle (.pattern key p :: rest)).toList = some (found, taken) ∧
        found.text = .string (textOf needle key)) ∧ Retake needle rest := by
  constructor
  · intro h
    refine ⟨h [] key p rest rfl, fun before key' p' after hsplit => ?_⟩
    exact h (.pattern key p :: before) key' p' after (congrArg _ hsplit)
  · rintro ⟨hfirst, hrest⟩ before key' p' after hsplit
    cases before with
    | nil =>
        obtain ⟨hitem, rfl⟩ := List.cons.inj hsplit
        obtain ⟨rfl, rfl⟩ := Item.pattern.inj hitem
        exact hfirst
    | cons first before => exact hrest before key' p' after (List.cons.inj hsplit).2

/-- Asks for items in order and comes to the fields found before, those of the
patterns, and the constants. -/
def askAll (constants : List (String × Value)) :
    List Item → (found : List (String × Value)) → Body M Outcome
  | [], found => return .ok (.record (found ++ constants))
  | .literal text :: rest, found => do
      match ← Body.ask (.literal text) with
      | .ok _ => askAll constants rest found
      | .error halt => return .error halt
  | .pattern key p :: rest, found => do
      match ← Body.pattern p with
      | .ok answer => askAll constants rest (found ++ [(key, answer.text)])
      | .error halt => return .error halt

section Run

variable {σ : Type} {session : Session σ M} {constants found : List (String × Value)}
  {rest : List Item} {text key : String} {p : Pattern} {state state' : σ} {memory memory' : M}
  {answer : Answer} {halt : Halt}

theorem run_literal_ok
    (hstep : session (.literal text) state memory = some (.ok answer, state', memory')) :
    (askAll constants (.literal text :: rest) found).run session state memory =
      (askAll constants rest found).run session state' memory' := by
  simp only [askAll, Bind.bind, Body.bind, Body.ask, Body.run, hstep]

theorem run_literal_error
    (hstep : session (.literal text) state memory = some (.error halt, state', memory')) :
    (askAll constants (.literal text :: rest) found).run session state memory =
      some (.error halt, state', memory') := by
  simp only [askAll, Bind.bind, Body.bind, Body.ask, Body.run, hstep]
  rfl

theorem run_pattern_ok {match' : Pattern.Match}
    (hstep : session (.pattern p) state memory = some (.ok (.pattern match'), state', memory')) :
    (askAll constants (.pattern key p :: rest) found).run session state memory =
      (askAll constants rest (found ++ [(key, match'.text)])).run session state' memory' := by
  simp only [askAll, Bind.bind, Body.bind, Body.pattern, Body.ask, Body.run, hstep]
  rfl

theorem run_pattern_error
    (hstep : session (.pattern p) state memory = some (.error halt, state', memory')) :
    (askAll constants (.pattern key p :: rest) found).run session state memory =
      some (.error halt, state', memory') := by
  simp only [askAll, Bind.bind, Body.bind, Body.pattern, Body.ask, Body.run, hstep]
  rfl

end Run

end Item

/-- A straight line: items and constant fields, all under keys of their own. -/
structure Line where
  items : List Item
  constants : List (String × Value)
  distinct : (Item.keys items ++ Bindings.keys constants).Nodup
  primitive : ∀ field ∈ constants, field.2.isPrimitive = true
  /-- The patterns take what they match. -/
  consuming : ∀ key p, .pattern key p ∈ items → p.zeroWidth = false

namespace Line

def body (line : Line) : Body M Outcome := Item.askAll line.constants line.items []

def keys (line : Line) : List String := Item.keys line.items ++ Bindings.keys line.constants

structure Meets (line : Line) (needle : Needle) : Prop where
  keys : ∀ key, key ∈ needle.keys ↔ key ∈ line.keys
  constants : ∀ field ∈ line.constants, ∃ expected,
    needle.get? field.1 = some expected ∧ (field.2 == expected) = true
  patterns : ∀ key p, .pattern key p ∈ line.items → ∃ text,
    needle.get? key = some (.string text) ∧ p.accepts text.toList = true

end Line

end TwoWay
