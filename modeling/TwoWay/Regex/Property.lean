import TwoWay.Regex.Tree
import TwoWay.Unicode.Class
import TwoWay.Unicode.GraphemeExtend
import TwoWay.Unicode.Letter
import TwoWay.Unicode.Uppercase

/-!
The sets of characters that regular expressions name: the classes of one-letter
escapes, the classes named between colons, and properties of Unicode under
their long and short names.

Which properties there are, and what has them, is a table that expressions are
made with. Unicode has many, and more with each version; the one table that is
written out here has the few that stand in it and no others.
-/

namespace TwoWay.Regex

def ShortClass.unicodeSet : ShortClass → CharSet
  | .digit => Unicode.decimalDigit
  | .space => Unicode.blank
  | .word => Unicode.word

namespace NamedClass

/-- The members of a named class, all of them ASCII. -/
def set : NamedClass → CharSet
  | .alnum => ⟨[(0x30, 0x39), (0x41, 0x5A), (0x61, 0x7A)]⟩
  | .alpha => ⟨[(0x41, 0x5A), (0x61, 0x7A)]⟩
  | .ascii => ⟨[(0x00, 0x7F)]⟩
  | .blank => ⟨[(0x09, 0x09), (0x20, 0x20)]⟩
  | .cntrl => ⟨[(0x00, 0x1F), (0x7F, 0x7F)]⟩
  | .digit => ⟨[(0x30, 0x39)]⟩
  | .graph => ⟨[(0x21, 0x7E)]⟩
  | .lower => ⟨[(0x61, 0x7A)]⟩
  | .print => ⟨[(0x20, 0x7E)]⟩
  | .punct => ⟨[(0x21, 0x2F), (0x3A, 0x40), (0x5B, 0x60), (0x7B, 0x7E)]⟩
  | .space => ⟨[(0x09, 0x0D), (0x20, 0x20)]⟩
  | .upper => ⟨[(0x41, 0x5A)]⟩
  | .word => ⟨[(0x30, 0x39), (0x41, 0x5A), (0x5F, 0x5F), (0x61, 0x7A)]⟩
  | .xdigit => ⟨[(0x30, 0x39), (0x41, 0x46), (0x61, 0x66)]⟩

end NamedClass

def ShortClass.asciiSet : ShortClass → CharSet
  | .digit => NamedClass.digit.set
  | .space => NamedClass.space.set
  | .word => NamedClass.word.set

/-- What the queries for properties come to. A query that comes to nothing names
what is unknown. -/
abbrev PropertyTable := PropertyQuery → Option CharSet

namespace PropertyTable

/-- A name as it is compared: in lower case, without blanks, underscores,
hyphens and characters beyond ASCII, and without `is` in front. -/
def looseName (name : String) : String :=
  let cs := name.toList.map Char.toLower
  let body :=
    match cs with
    | 'i' :: 's' :: rest => rest
    | cs => cs
  let kept := body.filter fun c => c.toNat < 0x80 && c != ' ' && c != '_' && c != '-'
  if cs.take 2 = ['i', 's'] && kept = ['c'] then "isc" else String.ofList kept

def binaryProperties : List (List String × CharSet) := [
  (["alphabetic", "alpha"], Unicode.alphabetic),
  (["whitespace", "wspace", "space"], Unicode.blank),
  (["graphemeextend", "grext"], Unicode.graphemeExtend),
  (["joincontrol", "joinc"], Unicode.joinControl)]

def generalCategories : List (List String × CharSet) := [
  (["any"], CharSet.empty.complement),
  (["ascii"], NamedClass.ascii.set),
  (["l", "letter"], Unicode.letter),
  (["lu", "uppercaseletter"], Unicode.uppercaseLetter),
  (["m", "mark", "combiningmark"], Unicode.mark),
  (["n", "number"], Unicode.numeric),
  (["nd", "decimalnumber", "digit"], Unicode.decimalDigit),
  (["pc", "connectorpunctuation"], Unicode.connector)]

def scripts : List (List String × CharSet) := [(["greek", "grek"], Unicode.greek)]

def find? (entries : List (List String × CharSet)) (name : String) : Option CharSet :=
  (entries.find? fun entry => entry.1.contains (looseName name)).map (·.2)

/-- A short table, for where no other is given: four properties, eight general
categories and one script. -/
def small : PropertyTable
  | .named name => find? (binaryProperties ++ generalCategories ++ scripts) name
  | .valued property value =>
      match looseName property with
      | "generalcategory" | "gc" => find? generalCategories value
      | "script" | "sc" => find? scripts value
      | _ => none

end PropertyTable

end TwoWay.Regex
