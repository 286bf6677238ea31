import TwoWay.Defect
import TwoWay.Regex.Basic
import TwoWay.Text.Bytes
import TwoWay.Value.Basic

/-!
Anchored patterns and their matches.

A pattern is a regular expression whose matches begin at the start of the text
or lie empty at its end. That is checked when the pattern is made, on the text
of the expression read without options. A pattern that must pass the end of
the text first is tried there alone.
-/

namespace TwoWay

structure Pattern where
  regex : Regex
  /-- Whether a match takes no input. -/
  zeroWidth : Bool
  /-- Whether every match begins at the end of the text. -/
  onlyAtEnd : Bool

/-- What a pattern matched: its text, or a slot's handle where the text is
still to be found; the texts of its groups; and the bytes before the match. -/
structure Pattern.Match where
  text : Value
  groups : List (Option String)
  named : List (String × Nat)
  start : Nat

namespace Pattern.Match

/-- The match that stands for the text of a slot. -/
def placeholder (handle : Handle) : Pattern.Match := ⟨.slot handle, [], [], 0⟩

def empty : Pattern.Match := ⟨.string "", [], [], 0⟩

def string? (m : Pattern.Match) : Option String := m.text.string?

/-- The text of a group; group zero is the whole match. -/
def group? (m : Pattern.Match) : Nat → Option String
  | 0 => m.string?
  | index + 1 => (m.groups[index]?).join

def name? (m : Pattern.Match) (name : String) : Option String :=
  (m.named.lookup name).bind m.group?

end Pattern.Match

namespace Pattern

/-- Whether the search for a match may begin at the end of the text. -/
def startsAtEnd (e : Regex.Expr) : Bool := e.opensWith .endText && !e.opensWith .startText

/-- Makes a pattern of a regular expression that is anchored as its text reads
without options. The table is the one that the expression was made with. -/
def ofRegex (regex : Regex) (table : Regex.PropertyTable := .small) : Except Defect Pattern :=
  match Regex.Reader.readTree? false false regex.source.toList with
  | none => .error (.malformed regex.source)
  | some reading =>
      if !reading.tree.isAnchored then .error (.unanchored regex.source)
      else
        match reading.tree.lower? table .default with
        | none => .error (.malformed regex.source)
        | some (expr, _) => .ok ⟨regex, false, startsAtEnd expr⟩

/-- Makes a pattern of a text read with options. -/
def ofSourceWith (options : Regex.Options) (source : String)
    (table : Regex.PropertyTable := .small) : Except Defect Pattern :=
  match Regex.compile? table options source with
  | none => .error (.malformed source)
  | some regex => ofRegex regex table

def ofSource (source : String) (table : Regex.PropertyTable := .small) : Except Defect Pattern :=
  ofSourceWith .default source table

def asZeroWidth (p : Pattern) : Pattern := { p with zeroWidth := true }

def source (p : Pattern) : String := p.regex.source

/-- Patterns are equal when they are written alike and take input alike. -/
instance : BEq Pattern where
  beq p q := p.source == q.source && p.zeroWidth == q.zeroWidth

def text (p : Pattern) : String :=
  if p.zeroWidth then "(?=" ++ p.source ++ ")" else "/" ++ p.source ++ "/"

def tagged (p : Pattern) : String := "Pattern(" ++ p.text ++ ")"

/-- The match as it is handed to a grammar. -/
def report (p : Pattern) (input : List Char) (m : Regex.Match) : Pattern.Match where
  text := .string (String.ofList m.text)
  groups := (List.range p.regex.groups).map fun i => (m.group? (i + 1)).map String.ofList
  named := p.regex.names
  start := Text.byteLength (input.take m.span.start.offset)

def find? (p : Pattern) (input : List Char) : Option Regex.Match :=
  if p.onlyAtEnd then p.regex.expr.matchAtEnd? input else p.regex.expr.search? input

/-- Matches at the head of a text, and says how many characters are taken. A
match away from the start counts when it is empty, and takes nothing. -/
def matchFront? (p : Pattern) (input : List Char) : Option (Pattern.Match × Nat) :=
  match p.find? input with
  | none => none
  | some m =>
      if m.span.start.offset != 0 && !m.isEmpty then none
      else
        let taken :=
          if p.zeroWidth || m.span.start.offset != 0 then 0 else m.span.stop.offset
        some (p.report input m, taken)

/-- Whether the whole of a text is one of the pattern's matches in it. -/
def accepts (p : Pattern) (text : List Char) : Bool :=
  (p.regex.expr.allMatches text).any fun m =>
    m.span.start.offset = 0 && m.span.stop.offset = text.length

end Pattern

end TwoWay
