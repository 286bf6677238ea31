/-!
Regular expressions as they are written: groups, repetitions, classes and flag
changes stand in the tree where they stand in the text, and nothing has been
given a meaning yet.
-/

namespace TwoWay.Regex

/-- Flags that change what the expressions after them mean. Skipping blanks is
a matter of reading alone. -/
inductive Flag where
  | ignoreCase
  | multiLine
  | dotMatchesNewline
  | swapGreed
  | unicode
  | crlf
  | ignoreSpace
  deriving DecidableEq, Repr

/-- Flags to switch on or off, each named at most once. -/
abbrev FlagChange := List (Flag × Bool)

inductive Assertion where
  | startLine
  | endLine
  | startText
  | endText
  | wordBoundary
  | notWordBoundary
  | wordStart
  | wordEnd
  | wordStartHalf
  | wordEndHalf
  deriving DecidableEq, Repr

/-- The classes with a one-letter escape: `\d`, `\s` and `\w`. -/
inductive ShortClass where
  | digit
  | space
  | word
  deriving DecidableEq, Repr

inductive NamedClass where
  | alnum
  | alpha
  | ascii
  | blank
  | cntrl
  | digit
  | graph
  | lower
  | print
  | punct
  | space
  | upper
  | word
  | xdigit
  deriving DecidableEq, Repr

/-- How a class of Unicode is asked for: by one name, or by the name of a
property and the name of its value. -/
inductive PropertyQuery where
  | named (name : String)
  | valued (property value : String)
  deriving DecidableEq, Repr

/-- A character as written. `byte` marks the escapes of two hexadecimal digits,
which name a byte where Unicode is switched off. -/
structure Literal where
  char : Char
  byte : Bool
  deriving DecidableEq, Repr

inductive SetOp where
  | intersection
  | difference
  | symmetricDifference
  deriving DecidableEq, Repr

inductive ClassTree where
  | empty
  | literal (l : Literal)
  | range (first last : Literal)
  | named (name : NamedClass) (negated : Bool)
  | short (name : ShortClass) (negated : Bool)
  | property (query : PropertyQuery) (negated : Bool)
  | bracketed (negated : Bool) (body : ClassTree)
  | union (parts : List ClassTree)
  | binary (op : SetOp) (left right : ClassTree)

inductive GroupKind where
  /-- A group whose text is kept under its number. -/
  | capturing (index : Nat)
  | plain (flags : FlagChange)
  deriving DecidableEq, Repr

inductive Tree where
  | empty
  | flags (change : FlagChange)
  | literal (l : Literal)
  | dot
  | assertion (a : Assertion)
  | short (name : ShortClass) (negated : Bool)
  | property (query : PropertyQuery) (negated : Bool)
  | bracketed (negated : Bool) (body : ClassTree)
  | repetition (min : Nat) (max : Option Nat) (greedy : Bool) (body : Tree)
  | group (kind : GroupKind) (body : Tree)
  | concat (parts : List Tree)
  | alternation (branches : List Tree)

/-- The parts of a union or of one branch, without a list around a single
part. -/
def ClassTree.ofParts : List ClassTree → ClassTree
  | [] => .empty
  | [part] => part
  | parts => .union parts

def Tree.ofParts : List Tree → Tree
  | [] => .empty
  | [part] => part
  | parts => .concat parts

def Tree.ofBranches : List Tree → Tree
  | [] => .empty
  | [branch] => branch
  | branches => .alternation branches

def ClassTree.nesting : ClassTree → Nat
  | .bracketed _ body => body.nesting + 1
  | .union parts => partsNesting parts + 1
  | .binary _ left right => max left.nesting right.nesting + 1
  | _ => 0
where
  partsNesting : List ClassTree → Nat
    | [] => 0
    | part :: rest => max part.nesting (partsNesting rest)

def Tree.nesting : Tree → Nat
  | .bracketed _ body => body.nesting + 1
  | .repetition _ _ _ body => body.nesting + 1
  | .group _ body => body.nesting + 1
  | .concat parts => partsNesting parts + 1
  | .alternation branches => partsNesting branches + 1
  | _ => 0
where
  partsNesting : List Tree → Nat
    | [] => 0
    | part :: rest => max part.nesting (partsNesting rest)

/-- Whether the first thing that a match must pass is the start or the end of
the text or of a line. Flag changes are passed over, and every branch of an
alternation must qualify. -/
def Tree.isAnchored : Tree → Bool
  | .assertion a =>
      match a with
      | .startLine | .endLine | .startText | .endText => true
      | _ => false
  | .concat parts => headAnchored parts
  | .alternation branches => allAnchored branches
  | .group _ body => body.isAnchored
  | _ => false
where
  headAnchored : List Tree → Bool
    | [] => false
    | .flags _ :: rest => headAnchored rest
    | part :: _ => part.isAnchored
  allAnchored : List Tree → Bool
    | [] => true
    | branch :: rest => branch.isAnchored && allAnchored rest

end TwoWay.Regex
