import TwoWay.Regex.Property
import TwoWay.Text.Bytes

/-!
Conditions on a place in a text that consume nothing: the ends of the text, the
ends of its lines, and the edges of its words. A condition looks at the
character before the place and at the one after it.
-/

namespace TwoWay.Regex

inductive WordEdge where
  | boundary
  | notBoundary
  | start
  | stop
  | startHalf
  | stopHalf
  deriving DecidableEq, Repr

inductive Look where
  | startText
  | endText
  /-- The start of a line, the lines ending in some byte. -/
  | startLine (lineEnd : UInt8)
  | endLine (lineEnd : UInt8)
  /-- The start of a line, the lines ending in carriage returns, line feeds or
  one of each in this order. -/
  | startLineCrlf
  | endLineCrlf
  | word (edge : WordEdge) (unicode : Bool)
  deriving DecidableEq, Repr

namespace Look

def isWord (unicode : Bool) : Option Char → Bool
  | none => false
  | some c =>
      if unicode then Unicode.word.contains c else ShortClass.word.asciiSet.contains c

def edgeHolds : WordEdge → (before after : Bool) → Bool
  | .boundary, before, after => before != after
  | .notBoundary, before, after => before == after
  | .start, before, after => !before && after
  | .stop, before, after => before && !after
  | .startHalf, before, _ => !before
  | .stopHalf, _, after => !after

/-- Whether the condition holds between two characters; the ends of the text
have none. -/
def holds (look : Look) (before after : Option Char) : Bool :=
  match look with
  | .startText => before.isNone
  | .endText => after.isNone
  | .startLine lineEnd => before.all fun c => Text.lastByte? c = some lineEnd
  | .endLine lineEnd => after.all fun c => Text.firstByte? c = some lineEnd
  | .startLineCrlf =>
      before.isNone || before = some '\n' || (before = some '\r' && after != some '\n')
  | .endLineCrlf =>
      after.isNone || after = some '\r' || (after = some '\n' && before != some '\r')
  | .word edge unicode => edgeHolds edge (isWord unicode before) (isWord unicode after)

variable {before after : Option Char}

/-- Where lines end in line feeds, the byte before a line is a character. -/
theorem holds_startLine_feed :
    (startLine 0x0A).holds before after = true ↔ before = none ∨ before = some '\n' := by
  cases before with
  | none => simp [holds]
  | some c =>
      have hfeed : Text.lastByte? c = some 0x0A ↔ c = '\n' :=
        (Text.lastByte?_eq_some (by decide)).trans (Char.toNat_inj (d := '\n'))
      simp [holds, hfeed]

theorem holds_endLine_feed :
    (endLine 0x0A).holds before after = true ↔ after = none ∨ after = some '\n' := by
  cases after with
  | none => simp [holds]
  | some c =>
      have hfeed : Text.firstByte? c = some 0x0A ↔ c = '\n' :=
        (Text.firstByte?_eq_some (by decide)).trans (Char.toNat_inj (d := '\n'))
      simp [holds, hfeed]

end Look

end TwoWay.Regex
