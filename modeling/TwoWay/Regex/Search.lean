import TwoWay.Regex.Expr

/-!
Finding the preferred match of an expression.

The search tries the ways of matching in the order of preference: the earlier
branch of an alternation first, one more round of a greedy repetition before
leaving it, leaving a lazy one before another round. A place where such a choice
is made is tried at most once at each position of the text. What is found from
there does not depend on how it was reached, so a second try could only fail
again; and while the first is under way, a second would be a round of a
repetition that took no character.

Places are named by their path in the expression. The copies that a counted
repetition stands for have places of their own.
-/

namespace TwoWay.Regex

/-- A position in a text: how many characters lie before it, the last of them,
and the characters after it. -/
structure Cursor where
  offset : Nat
  before : Option Char
  rest : List Char
  deriving DecidableEq, Repr

def Cursor.stop (text : List Char) : Cursor := ⟨text.length, text.getLast?, []⟩

structure Span where
  start : Cursor
  stop : Cursor
  deriving DecidableEq, Repr

def Span.text (s : Span) : List Char := s.start.rest.take (s.stop.offset - s.start.offset)

abbrev Groups := List (Nat × Span)

def Groups.set (index : Nat) (span : Span) (groups : Groups) : Groups :=
  (index, span) :: groups.filter (·.1 != index)

/-- The choices already tried: for each position of the text, the paths of
those tried there. -/
abbrev Tried := Array (List (List Nat))

def Tried.start (length : Nat) : Tried := Array.replicate (length + 1) []

def Tried.pathsAt (tried : Tried) (offset : Nat) : List (List Nat) := tried[offset]?.getD []

def Tried.insert (tried : Tried) (offset : Nat) (path : List Nat) : Tried :=
  tried.setIfInBounds offset (path :: tried.pathsAt offset)

/-- What is left to match after a position, with what the groups have matched
so far. It ends at the position where the whole match does. -/
abbrev Matcher := Cursor → Groups → Tried → Option (Cursor × Groups) × Tried

namespace Matcher

def fail : Matcher := fun _ _ tried => (none, tried)

def done : Matcher := fun c groups tried => (some (c, groups), tried)

/-- Tries a choice unless it has been tried at this position. -/
def once (path : List Nat) (m : Matcher) : Matcher := fun c groups tried =>
  if path ∈ tried.pathsAt c.offset then (none, tried)
  else m c groups (tried.insert c.offset path)

def orElse (first second : Matcher) : Matcher := fun c groups tried =>
  match first c groups tried with
  | (some found, tried) => (some found, tried)
  | (none, tried) => second c groups tried

/-- A choice between another round and going on, in the order that the greed of
the repetition asks for. -/
def choose (greedy : Bool) (again leave : Matcher) : Matcher :=
  if greedy then orElse again leave else orElse leave again

/-- Any number of rounds. `fuel` bounds them. -/
def star (round : Matcher → Matcher) (path : List Nat) (greedy : Bool) (next : Matcher) :
    (fuel : Nat) → Matcher
  | 0 => fail
  | fuel + 1 => once path (choose greedy (round (star round path greedy next fuel)) next)

def plus (round : Matcher → Matcher) (path : List Nat) (greedy : Bool) (next : Matcher) :
    (fuel : Nat) → Matcher
  | 0 => fail
  | fuel + 1 => round (once path (choose greedy (plus round path greedy next fuel) next))

def copies (round : Nat → Matcher → Matcher) (next : Matcher) : (i count : Nat) → Matcher
  | _, 0 => next
  | i, count + 1 => round i (copies round next (i + 1) count)

/-- At most so many rounds, each with its number. -/
def optional (round : Nat → Matcher → Matcher) (path : Nat → List Nat) (greedy : Bool)
    (next : Matcher) : (i count : Nat) → Matcher
  | _, 0 => next
  | i, count + 1 =>
      once (path i) (choose greedy (round i (optional round path greedy next (i + 1) count)) next)

end Matcher

open Matcher in
/-- Matches an expression and then what is left. A repetition without an upper
bound takes at most one round per character, and one that takes none. -/
def Expr.run : Expr → List Nat → Matcher → Matcher
  | .empty, _, next => next
  | .chars set, _, next => fun c groups tried =>
      match c.rest with
      | [] => (none, tried)
      | d :: rest =>
          if set.contains d then next ⟨c.offset + 1, some d, rest⟩ groups tried
          else (none, tried)
  | .look l, _, next => fun c groups tried =>
      if l.holds c.before c.rest.head? then next c groups tried else (none, tried)
  | .group index body, path, next => fun c groups tried =>
      body.run (0 :: path) (fun c' groups => next c' (groups.set index ⟨c, c'⟩)) c groups tried
  | .seq a b, path, next => a.run (0 :: path) (b.run (1 :: path) next)
  | .alt a b, path, next =>
      once path (orElse (a.run (0 :: path) next) (b.run (1 :: path) next))
  | .repeats min (some max) greedy body, path, next =>
      let round (i : Nat) (next : Matcher) : Matcher := body.run (i :: 0 :: path) next
      copies round (optional round (fun i => i :: 1 :: path) greedy next min (max - min)) 0 min
  | .repeats 0 none greedy body, path, next => fun c groups tried =>
      let round (next : Matcher) : Matcher := body.run (0 :: 0 :: path) next
      let fuel := c.rest.length + 2
      if body.consumes then star round (0 :: 1 :: path) greedy next fuel c groups tried
      else
        once (2 :: path) (choose greedy (plus round (0 :: 1 :: path) greedy next fuel) next)
          c groups tried
  | .repeats (min + 1) none greedy body, path, next =>
      let round (i : Nat) (next : Matcher) : Matcher := body.run (i :: 0 :: path) next
      copies round
        (fun c groups tried =>
          plus (round min) (0 :: 1 :: path) greedy next (c.rest.length + 2) c groups tried)
        0 min

structure Match where
  span : Span
  groups : Groups
  deriving Repr

namespace Match

def text (m : Match) : List Char := m.span.text

def isEmpty (m : Match) : Bool := m.span.start.offset = m.span.stop.offset

def group? (m : Match) (index : Nat) : Option (List Char) :=
  (m.groups.lookup index).map Span.text

end Match

namespace Expr

/-- The preferred match that begins at a position. -/
def matchAt? (e : Expr) (c : Cursor) : Option Match :=
  let tried := Tried.start (c.offset + c.rest.length)
  (e.run [] Matcher.done c [] tried).1.map fun (stop, groups) => ⟨⟨c, stop⟩, groups⟩

/-- The preferred match among those that begin earliest, from a position on. -/
def searchFrom? (e : Expr) (offset : Nat) (before : Option Char) : List Char → Option Match
  | [] => e.matchAt? ⟨offset, before, []⟩
  | c :: cs =>
      e.matchAt? ⟨offset, before, c :: cs⟩ <|> e.searchFrom? (offset + 1) (some c) cs

def search? (e : Expr) (text : List Char) : Option Match := e.searchFrom? 0 none text

/-- The match after one that ended at `last`, searched for from a position on. An
empty match at the end of the one before does not count; the search goes on one
character further. -/
def nextMatch? (e : Expr) (last : Option Nat) (c : Cursor) : Option Match :=
  match e.searchFrom? c.offset c.before c.rest with
  | none => none
  | some m =>
      if m.isEmpty && last = some m.span.stop.offset then
        match c.rest with
        | [] => none
        | d :: rest => e.searchFrom? (c.offset + 1) (some d) rest
      else some m

/-- The matches from a position on, each searched for where the one before ended.
`fuel` bounds how many there are. -/
def matchesFrom (e : Expr) : (fuel : Nat) → Option Nat → Cursor → List Match
  | 0, _, _ => []
  | fuel + 1, last, c =>
      match e.nextMatch? last c with
      | none => []
      | some m => m :: e.matchesFrom fuel (some m.span.stop.offset) m.span.stop

/-- The matches in a text, one after another. No two end at the same place, so
there are no more than places. -/
def allMatches (e : Expr) (text : List Char) : List Match :=
  e.matchesFrom (text.length + 1) none ⟨0, none, text⟩

def matchAtEnd? (e : Expr) (text : List Char) : Option Match :=
  e.matchAt? (Cursor.stop text)

end Expr

end TwoWay.Regex
