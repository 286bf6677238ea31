import TwoWay.Regex.Expr
import TwoWay.Unicode.CaseFold

/-!
Giving a written expression its meaning: flags are worked into the parts that
they govern, and classes become sets. A flag change holds up to the end of its
group, through the branches that follow; a tree has no meaning when it names a
property that the table does not know, or when with Unicode switched off a part
could match half a character.
-/

namespace TwoWay.Regex

structure Flags where
  ignoreCase : Bool
  multiLine : Bool
  dotMatchesNewline : Bool
  swapGreed : Bool
  unicode : Bool
  crlf : Bool
  /-- The byte that ends a line, where lines do not end in carriage returns. -/
  lineEnd : UInt8 := 0x0A
  deriving DecidableEq, Repr

namespace Flags

/-- The flags in force where nothing was said: Unicode and no other, the lines
ending in line feeds. -/
def default : Flags := ⟨false, false, false, false, true, false, 0x0A⟩

def set (f : Flags) (flag : Flag) (on : Bool) : Flags :=
  match flag with
  | .ignoreCase => { f with ignoreCase := on }
  | .multiLine => { f with multiLine := on }
  | .dotMatchesNewline => { f with dotMatchesNewline := on }
  | .swapGreed => { f with swapGreed := on }
  | .unicode => { f with unicode := on }
  | .crlf => { f with crlf := on }
  | .ignoreSpace => f

def apply (f : Flags) (change : FlagChange) : Flags :=
  change.foldl (fun f (flag, on) => f.set flag on) f

def closeUnderAsciiCase (s : CharSet) : CharSet :=
  let letters := (List.range 26).filter fun i =>
    CharSet.covers s.ranges (0x41 + i) || CharSet.covers s.ranges (0x61 + i)
  s.union (.ofCodes (letters.flatMap fun i => [0x41 + i, 0x61 + i]))

/-- The set with case disregarded, if it is to be. -/
def fold (f : Flags) (s : CharSet) : CharSet :=
  if !f.ignoreCase then s
  else if f.unicode then Unicode.closeUnderCase s
  else closeUnderAsciiCase s

/-- The set negated, if it is to be. Without Unicode the rest of a set would
hold bytes that are no characters. -/
def negate? (f : Flags) (negated : Bool) (s : CharSet) : Option CharSet :=
  if !negated then some s
  else if f.unicode then some s.complement
  else none

/-- The character that a literal in a class names. Without Unicode only ASCII
can be named. -/
def classChar? (f : Flags) (l : Literal) : Option Char :=
  if f.unicode || l.char.toNat < 0x80 then some l.char else none

def shortSet? (f : Flags) (name : ShortClass) (negated : Bool) : Option CharSet :=
  f.negate? negated (if f.unicode then name.unicodeSet else name.asciiSet)

def propertySet? (table : PropertyTable) (f : Flags) (query : PropertyQuery) (negated : Bool) :
    Option CharSet := do
  if f.unicode then f.negate? negated (f.fold (← table query)) else none

end Flags

def SetOp.apply : SetOp → CharSet → CharSet → CharSet
  | .intersection => .intersection
  | .difference => .difference
  | .symmetricDifference => .symmetricDifference

/-- The members of a class. Case is disregarded before a class is negated and
before two are combined. -/
def ClassTree.set? (table : PropertyTable) (f : Flags) : ClassTree → Option CharSet
  | .empty => some .empty
  | .literal l => do return .singleton (← f.classChar? l)
  | .range a b => do return .interval (← f.classChar? a) (← f.classChar? b)
  | .named name negated => f.negate? negated (f.fold name.set)
  | .short name negated => f.shortSet? name negated
  | .property query negated => f.propertySet? table query negated
  | .bracketed negated body => do f.negate? negated (f.fold (← body.set? table f))
  | .union parts => unionOf? parts
  | .binary op left right => do
      let l ← left.set? table f
      let r ← right.set? table f
      return op.apply (f.fold l) (f.fold r)
where
  unionOf? : List ClassTree → Option CharSet
    | [] => some .empty
    | part :: rest => do return (← part.set? table f).union (← unionOf? rest)

def Flags.literal? (f : Flags) (l : Literal) : Option Expr :=
  if !f.unicode && l.byte && 0x80 ≤ l.char.toNat then none
  else some (.chars (f.fold (.singleton l.char)))

/-- The dot. Without Unicode, or where lines end in a byte that is no character,
it would match bytes that are no characters. -/
def Flags.dot? (f : Flags) : Option Expr :=
  if !f.unicode || 0x80 ≤ f.lineEnd.toNat then none
  else if f.dotMatchesNewline then some (.chars CharSet.empty.complement)
  else if f.crlf then some (.chars (CharSet.ofList ['\n', '\r']).complement)
  else some (.chars (CharSet.singleton (Char.ofUInt8 f.lineEnd)).complement)

def Flags.look (f : Flags) : Assertion → Look
  | .startLine =>
      if !f.multiLine then .startText
      else if f.crlf then .startLineCrlf
      else .startLine f.lineEnd
  | .endLine =>
      if !f.multiLine then .endText
      else if f.crlf then .endLineCrlf
      else .endLine f.lineEnd
  | .startText => .startText
  | .endText => .endText
  | .wordBoundary => .word .boundary f.unicode
  | .notWordBoundary => .word .notBoundary f.unicode
  | .wordStart => .word .start f.unicode
  | .wordEnd => .word .stop f.unicode
  | .wordStartHalf => .word .startHalf f.unicode
  | .wordEndHalf => .word .stopHalf f.unicode

/-- The meaning of a tree under some flags, with the flags that hold after
it. -/
def Tree.lower? (table : PropertyTable) (f : Flags) : Tree → Option (Expr × Flags)
  | .empty => some (.empty, f)
  | .flags change => some (.empty, f.apply change)
  | .literal l => do return (← f.literal? l, f)
  | .dot => do return (← f.dot?, f)
  | .assertion a => some (.look (f.look a), f)
  | .short name negated => do return (.chars (← f.shortSet? name negated), f)
  | .property query negated => do return (.chars (← f.propertySet? table query negated), f)
  | .bracketed negated body => do
      return (.chars (← f.negate? negated (f.fold (← body.set? table f))), f)
  | .repetition min max greedy body => do
      let (e, f) ← body.lower? table f
      return (.repetition min max (greedy != f.swapGreed) e, f)
  | .group (.capturing index) body => do
      let (e, _) ← body.lower? table f
      return (.group index e, f)
  | .group (.plain change) body => do
      let (e, _) ← body.lower? table (f.apply change)
      return (e, f)
  | .concat parts => do
      let (es, f) ← lowerAll? f parts
      return (.concat es, f)
  | .alternation branches => do
      let (es, f) ← lowerAll? f branches
      return (.alternation es, f)
where
  lowerAll? (f : Flags) : List Tree → Option (List Expr × Flags)
    | [] => some ([], f)
    | t :: ts => do
        let (e, f) ← t.lower? table f
        let (es, f) ← lowerAll? f ts
        return (e :: es, f)

end TwoWay.Regex
