import TwoWay.Grammar.Body

/-!
Small bodies made of session requests alone: probes, tests for the end of the
input, and sequences. They mean the same in both directions, but while a grammar
is inverted a rule with a value of its own must meet the needle, so the rules
that come to a truth value or to what they matched cannot be used on the way.
-/

namespace TwoWay.Standard

variable {M : Type}

/-- A pattern made of an expression known to be anchored, without options. -/
def anchored (source : String) (look : Regex.Expr) : Pattern :=
  ⟨⟨source, look, 0, []⟩, false, Pattern.startsAtEnd look⟩

/-- Matches at the end of the input, wherever that is. -/
def endProbe : Pattern := anchored "$" (.look .endText)

/-- Matches where no input is left. -/
def endOfInput : Pattern := anchored "^$" (.seq (.look .startText) (.look .endText))

/-- Fails unless the input is used up, and comes to nothing. -/
def mustEnd : Body M Outcome := do
  match ← Body.pattern endOfInput with
  | .ok _ => return .ok .nil
  | .error halt => return .error halt

def hasMore : Body M Outcome := do
  match ← Body.pattern endProbe with
  | .ok found => return .ok (.bool (found.start != 0))
  | .error halt => return .error halt

def isEnd : Body M Outcome := do
  match ← Body.pattern endProbe with
  | .ok found => return .ok (.bool (found.start == 0))
  | .error halt => return .error halt

/-- Tries a node without requiring it, and says whether it matched. -/
def has (item : Node) : Body M Outcome := do
  match ← Body.ask (.choice [item, .literal ""]) with
  | .ok found => return .ok (.bool !found.isEmptyLiteral)
  | .error halt => return .error halt

/-- Tries some nodes in order without requiring any, and comes to what matched
or to nothing. -/
def optional (items : List Node) : Body M Outcome := do
  match ← Body.ask (.choice (items ++ [.literal ""])) with
  | .ok found => return .ok (if found.isEmptyLiteral then .nil else found.value)
  | .error halt => return .error halt

def sequence : List Node → Body M Outcome
  | [] => return .ok .nil
  | node :: rest => do
      match ← Body.ask node with
      | .ok _ => sequence rest
      | .error halt => return .error halt

theorem sessionOnly_sequence (nodes : List Node) :
    (sequence nodes : Body M Outcome).SessionOnly := by
  induction nodes with
  | nil => trivial
  | cons node rest ih =>
      intro reply
      cases reply with
      | ok _ => exact ih
      | error _ => trivial

theorem ofSource_endProbe (table : Regex.PropertyTable) :
    Pattern.ofSource "$" table = .ok endProbe := by
  rfl

theorem ofSource_endOfInput (table : Regex.PropertyTable) :
    Pattern.ofSource "^$" table = .ok endOfInput := by
  rfl

end TwoWay.Standard
