import TwoWay.Regex.Reader

/-!
Reading the classes between brackets. A class is a union of characters, ranges,
named classes and nested brackets; unions are combined from left to right by
intersection, difference and symmetric difference.
-/

namespace TwoWay.Regex.Reader

def namedClass? : String → Option NamedClass
  | "alnum" => some .alnum
  | "alpha" => some .alpha
  | "ascii" => some .ascii
  | "blank" => some .blank
  | "cntrl" => some .cntrl
  | "digit" => some .digit
  | "graph" => some .graph
  | "lower" => some .lower
  | "print" => some .print
  | "punct" => some .punct
  | "space" => some .space
  | "upper" => some .upper
  | "word" => some .word
  | "xdigit" => some .xdigit
  | _ => none

/-- A class named between colons at the front of a text, such as `[:alpha:]`,
and the rest of the text. -/
def splitNamed? : List Char → Option (ClassTree × List Char)
  | '[' :: ':' :: cs =>
      let (negated, cs) :=
        match cs with
        | '^' :: cs => (true, cs)
        | cs => (false, cs)
      let name := cs.takeWhile (· != ':')
      match cs.drop name.length with
      | ':' :: ']' :: rest =>
          (namedClass? (String.ofList name)).map fun n => (.named n negated, rest)
      | _ => none
  | _ => none

/-- The character that decides whether a minus makes a range: the first one
that is no blank, with one comment sign passed over. Where blanks run to the
end of the text it is the first of them. -/
def afterBlanks? (cs : List Char) : Option Char :=
  go false cs <|> cs.head?
where
  go (passed : Bool) : List Char → Option Char
    | [] => none
    | c :: cs =>
        if isBlank c then go passed cs
        else if !passed && c = '#' then go true cs
        else some c

def peekSpaced : Reader (Option Char) := do
  let s ← get
  return if s.spaced then afterBlanks? s.rest.tail else s.rest.tail.head?

def classAtom : Reader Tree := do
  let c ← char
  if c = '\\' then escape
  else
    bump
    return .literal ⟨c, false⟩

def toClassTree? : Tree → Option ClassTree
  | .literal l => some (.literal l)
  | .short name negated => some (.short name negated)
  | .property query negated => some (.property query negated)
  | _ => none

def toLiteral? : Tree → Option Literal
  | .literal l => some l
  | _ => none

/-- A single item or a range. A minus before a closing bracket or before
another minus makes no range. -/
def classItem : Reader ClassTree := do
  let first ← classAtom
  skipSpace
  let c ← char
  let next ← peekSpaced
  if c != '-' || next = some ']' || next = some '-' then
    match toClassTree? first with
    | some item => return item
    | none => failure
  else
    bumpSpace
    let last ← classAtom
    match toLiteral? first, toLiteral? last with
    | some a, some b => if a.char ≤ b.char then return .range a b else failure
    | _, _ => failure

def combine (left? : Option (SetOp × ClassTree)) (items : List ClassTree) : ClassTree :=
  let union := ClassTree.ofParts items.reverse
  match left? with
  | none => union
  | some (op, left) => .binary op left union

/-- Minus signs at the start of a class stand for themselves. `fuel` bounds
their number. -/
def leadingMinus : (fuel : Nat) → Reader (List ClassTree)
  | 0 => return []
  | fuel + 1 => do
      if (← char) = '-' then
        bumpSpace
        return .literal ⟨'-', false⟩ :: (← leadingMinus fuel)
      else return []

/-- What stands between an opening bracket and the first item that is not
taken literally for its place: whether the class is negated, and its items so
far. -/
def classHead (fuel : Nat) : Reader (Bool × List ClassTree) := do
  bumpSpace
  let negated := (← char) = '^'
  if negated then bumpSpace
  let minuses ← leadingMinus fuel
  if minuses.isEmpty && (← char) = ']' then
    bumpSpace
    let _ ← char
    return (negated, [.literal ⟨']', false⟩])
  else return (negated, minuses)

mutual

/-- A class from its opening bracket to its closing one. `fuel` bounds the
items and nested classes. -/
def bracketed : (fuel : Nat) → Reader ClassTree
  | 0 => failure
  | fuel + 1 => do
      let (negated, items) ← classHead fuel
      let body ← classBody fuel none items
      return .bracketed negated body

/-- The items up to the closing bracket. `items` holds those since the last
operator, the latest first, and `left?` that operator with all before it. -/
def classBody : (fuel : Nat) → Option (SetOp × ClassTree) → List ClassTree → Reader ClassTree
  | 0, _, _ => failure
  | fuel + 1, left?, items => do
      skipSpace
      let operator (op : SetOp) : Reader ClassTree := do
        bump
        bump
        classBody fuel (some (op, combine left? items)) []
      match (← get).rest with
      | '[' :: cs =>
          match splitNamed? ('[' :: cs) with
          | some (named, rest) => do
              setRest rest
              classBody fuel left? (named :: items)
          | none => do
              let nested ← bracketed fuel
              classBody fuel left? (nested :: items)
      | ']' :: _ => do
          bump
          return combine left? items
      | '&' :: '&' :: _ => operator .intersection
      | '-' :: '-' :: _ => operator .difference
      | '~' :: '~' :: _ => operator .symmetricDifference
      | _ => do
          let item ← classItem
          classBody fuel left? (item :: items)

end

end TwoWay.Regex.Reader
