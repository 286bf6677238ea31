import TwoWay.Regex.Tree
import TwoWay.Unicode.Alphabetic
import TwoWay.Unicode.Class

/-!
Reading single parts of a regular expression: blanks and comments, numbers,
escapes, flags and the opening of a group. A reader gives a result and moves
past what it read, or refuses; why it refuses is of no interest, since a text
that is no regular expression is reported as a whole.
-/

namespace TwoWay.Regex

structure ReaderState where
  rest : List Char
  /-- Whether blanks and comments between the parts are skipped. -/
  spaced : Bool
  /-- Whether a backslash before digits names a character in base eight. -/
  octal : Bool
  /-- How many capturing groups have been opened. -/
  groups : Nat
  /-- The named groups so far with their numbers, the latest first. -/
  names : List (String × Nat)

abbrev Reader := StateT ReaderState Option

namespace Reader

def isBlank (c : Char) : Bool := Unicode.blank.contains c

/-- What is left after blanks and comments; a comment runs from `#` to the end
of its line. -/
def dropSpace : (inComment : Bool) → List Char → List Char
  | _, [] => []
  | true, c :: cs => dropSpace (c != '\n') cs
  | false, c :: cs =>
      if isBlank c then dropSpace false cs
      else if c = '#' then dropSpace true cs
      else c :: cs

/-- The characters up to the first one that `keep` refuses, and the rest; where
`spaced` is set, blanks and comments among them are left out. -/
def takeSpaced (keep : Char → Bool) (spaced : Bool) :
    (inComment : Bool) → List Char → List Char × List Char
  | _, [] => ([], [])
  | true, c :: cs => takeSpaced keep spaced (c != '\n') cs
  | false, c :: cs =>
      if spaced && isBlank c then takeSpaced keep spaced false cs
      else if spaced && c = '#' then takeSpaced keep spaced true cs
      else if keep c then
        let (taken, rest) := takeSpaced keep spaced false cs
        (c :: taken, rest)
      else ([], c :: cs)

def peek : Reader (Option Char) := do return (← get).rest.head?

def setRest (rest : List Char) : Reader Unit := modify ({ · with rest })

def bump : Reader Unit := modify fun s => { s with rest := s.rest.tail }

def skipSpace : Reader Unit :=
  modify fun s => if s.spaced then { s with rest := dropSpace false s.rest } else s

def bumpSpace : Reader Unit := do
  bump
  skipSpace

/-- The next character, which must be there. -/
def char : Reader Char := do
  match ← peek with
  | some c => return c
  | none => failure

def expect (c : Char) : Reader Unit := do
  if (← peek) = some c then bump else failure

def accept (text : List Char) : Reader Bool := do
  let s ← get
  if text.isPrefixOf s.rest then
    setRest (s.rest.drop text.length)
    return true
  else return false

def acceptAny : List (List Char) → Reader Bool
  | [] => return false
  | text :: others => do
      if ← accept text then return true else acceptAny others

def taking (keep : Char → Bool) : Reader (List Char) := do
  let s ← get
  let (taken, rest) := takeSpaced keep s.spaced false s.rest
  setRest rest
  return taken

def digitValue (c : Char) : Nat :=
  if c.isDigit then c.toNat - 0x30
  else if 'a' ≤ c ∧ c ≤ 'f' then c.toNat - 0x57
  else c.toNat - 0x37

def isHexDigit (c : Char) : Bool :=
  c.isDigit || ('a' ≤ c && c ≤ 'f') || ('A' ≤ c && c ≤ 'F')

def numeral (base : Nat) (digits : List Char) : Nat :=
  digits.foldl (fun n c => n * base + digitValue c) 0

/-- A repetition count, with blanks around it. Counts have 32 bits. -/
def count : Reader Nat := do
  modify fun s => { s with rest := s.rest.dropWhile isBlank }
  let digits ← taking Char.isDigit
  modify fun s => { s with rest := s.rest.dropWhile isBlank }
  let n := numeral 10 digits
  if digits.isEmpty || Nat.pow 2 32 ≤ n then failure else return n

def charOfCode (n : Nat) : Reader Char :=
  if n.isValidChar then return Char.ofNat n else failure

def hexDigits : Nat → Reader (List Char)
  | 0 => return []
  | n + 1 => do
      let c ← char
      if isHexDigit c then
        bumpSpace
        return c :: (← hexDigits n)
      else failure

/-- The rest of an escape by code point, after its letter: `width` digits, or
any number of them between braces. -/
def hexEscape (width : Nat) : Reader Literal := do
  skipSpace
  if (← char) = '\x7b' then
    bumpSpace
    let digits ← taking (· != '\x7d')
    expect '\x7d'
    skipSpace
    if digits.isEmpty || !digits.all isHexDigit then failure
    else return ⟨← charOfCode (numeral 16 digits), false⟩
  else
    return ⟨← charOfCode (numeral 16 (← hexDigits width)), width = 2⟩

def octalEscape : Reader Literal := do
  let s ← get
  let digits := (s.rest.takeWhile fun c => '0' ≤ c && c ≤ '7').take 3
  setRest (s.rest.drop digits.length)
  return ⟨← charOfCode (numeral 8 digits), false⟩

def splitAt? (sep : List Char) : List Char → Option (List Char × List Char)
  | [] => none
  | c :: cs =>
      if sep.isPrefixOf (c :: cs) then some ([], (c :: cs).drop sep.length)
      else (splitAt? sep cs).map fun (before, after) => (c :: before, after)

/-- The query inside the braces of a property escape, and whether its operator
negates it. -/
def propertyQuery (text : List Char) : PropertyQuery × Bool :=
  let valued (p : List Char × List Char) : PropertyQuery :=
    .valued (String.ofList p.1) (String.ofList p.2)
  match splitAt? ['!', '='] text with
  | some p => (valued p, true)
  | none =>
    match splitAt? [':'] text with
    | some p => (valued p, false)
    | none =>
      match splitAt? ['='] text with
      | some p => (valued p, false)
      | none => (.named (String.ofList text), false)

def propertyEscape (negated : Bool) : Reader Tree := do
  skipSpace
  let c ← char
  if c = '\x7b' then
    bumpSpace
    let text ← taking (· != '\x7d')
    expect '\x7d'
    let (query, flipped) := propertyQuery text
    return .property query (negated != flipped)
  else if c = '\\' then failure
  else
    bumpSpace
    return .property (.named (String.ofList [c])) negated

def isMeta (c : Char) : Bool :=
  "\\.+*?()|[]\x7b\x7d^$#&-~".toList.contains c

def isEscapable (c : Char) : Bool :=
  isMeta c || (c.toNat < 0x80 && !c.isAlphanum && c != '<' && c != '>')

/-- The kinds of word boundary with a name between braces. A brace that does
not open such a name is left where it is. -/
def boundaryKind : Reader Assertion := do
  if (← peek) = some '\x7b' then
    let start ← get
    bumpSpace
    let isNameChar (c : Char) := c.isAlpha || c = '-'
    if isNameChar (← char) then
      let name ← taking isNameChar
      expect '\x7d'
      match String.ofList name with
      | "start" => return .wordStart
      | "end" => return .wordEnd
      | "start-half" => return .wordStartHalf
      | "end-half" => return .wordEndHalf
      | _ => failure
    else
      set start
      return .wordBoundary
  else return .wordBoundary

def escape : Reader Tree := do
  bump
  let c ← char
  let literal (d : Char) : Reader Tree := return .literal ⟨d, false⟩
  if '0' ≤ c && c ≤ '7' then
    if (← get).octal then return .literal (← octalEscape) else failure
  else if c.isDigit then failure
  else
    bump
    match c with
    | 'x' => return .literal (← hexEscape 2)
    | 'u' => return .literal (← hexEscape 4)
    | 'U' => return .literal (← hexEscape 8)
    | 'p' => propertyEscape false
    | 'P' => propertyEscape true
    | 'd' => return .short .digit false
    | 'D' => return .short .digit true
    | 's' => return .short .space false
    | 'S' => return .short .space true
    | 'w' => return .short .word false
    | 'W' => return .short .word true
    | 'a' => literal '\x07'
    | 'f' => literal '\x0c'
    | 't' => literal '\t'
    | 'n' => literal '\n'
    | 'r' => literal '\r'
    | 'v' => literal '\x0b'
    | 'A' => return .assertion .startText
    | 'z' => return .assertion .endText
    | 'b' => return .assertion (← boundaryKind)
    | 'B' => return .assertion .notWordBoundary
    | '<' => return .assertion .wordStart
    | '>' => return .assertion .wordEnd
    | c => if isEscapable c then literal c else failure

def flagOf? : Char → Option Flag
  | 'i' => some .ignoreCase
  | 'm' => some .multiLine
  | 's' => some .dotMatchesNewline
  | 'U' => some .swapGreed
  | 'u' => some .unicode
  | 'R' => some .crlf
  | 'x' => some .ignoreSpace
  | _ => none

/-- The flags between `(?` and the colon or parenthesis that ends them. Those
after a minus are switched off; a minus must have a flag after it. -/
def flagChange (text : List Char) : Option FlagChange :=
  go true false [] text
where
  go (enable afterMinus : Bool) (change : FlagChange) : List Char → Option FlagChange
    | [] => if afterMinus then none else some change.reverse
    | '-' :: cs => if enable then go false true change cs else none
    | c :: cs => do
        let flag ← flagOf? c
        if change.any (·.1 = flag) then none
        else go enable false ((flag, enable) :: change) cs

def isNameChar (first : Bool) (c : Char) : Bool :=
  c = '_' || Unicode.alphabetic.contains c ||
    (!first && (c = '.' || c = '[' || c = ']' || Unicode.numeric.contains c))

def groupName : Reader String := do
  let s ← get
  let name := s.rest.takeWhile (· != '>')
  setRest (s.rest.drop name.length)
  expect '>'
  match name with
  | [] => failure
  | first :: others =>
      if isNameChar true first && others.all (isNameChar false) then
        return String.ofList name
      else failure

def openGroup : Reader GroupKind := do
  let s ← get
  set { s with groups := s.groups + 1 }
  return .capturing (s.groups + 1)

/-- What stands between a parenthesis and the body of its group; flags alone
open no group. -/
def groupHead : Reader (FlagChange ⊕ GroupKind) := do
  bumpSpace
  if ← acceptAny [['?', '='], ['?', '!'], ['?', '<', '='], ['?', '<', '!']] then failure
  else if ← acceptAny [['?', 'P', '<'], ['?', '<']] then
    let kind ← openGroup
    let name ← groupName
    let s ← get
    if s.names.any (·.1 = name) then failure
    else
      set { s with names := (name, s.groups) :: s.names }
      return .inr kind
  else if ← accept ['?'] then
    let s ← get
    let text := s.rest.takeWhile fun c => c != ':' && c != ')'
    setRest (s.rest.drop text.length)
    let closing ← char
    bump
    match flagChange text with
    | none => failure
    | some change =>
        if closing = ':' then return .inr (.plain change)
        else if change.isEmpty then failure
        else return .inl change
  else return .inr (← openGroup)

end Reader

end TwoWay.Regex
