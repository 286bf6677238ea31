import TwoWay.Unicode.GraphemeExtend
import TwoWay.Unicode.Unprintable

/-!
Quoted text, as diagnostics show it: between double quotes, with the quote and
the backslash escaped, four controls by letter, and by code point whatever has
no glyph of its own or would attach to the character before it.
-/

namespace TwoWay.Text.Quoted

/-- A character by its code point, in base sixteen and lower case. -/
def codePoint (c : Char) : List Char :=
  ['\\', 'u', '\x7b'] ++ Nat.toDigits 16 c.toNat ++ ['\x7d']

/-- Whether a character shows as itself. -/
def isPlain (c : Char) : Bool :=
  !Unicode.graphemeExtend.contains c && (c = ' ' || !Unicode.unprintable.contains c)

def escape (c : Char) : List Char :=
  match c with
  | '"' => ['\\', '"']
  | '\\' => ['\\', '\\']
  | '\x00' => ['\\', '0']
  | '\t' => ['\\', 't']
  | '\r' => ['\\', 'r']
  | '\n' => ['\\', 'n']
  | c => if isPlain c then [c] else codePoint c

end TwoWay.Text.Quoted

namespace TwoWay.Text

def quoted (s : String) : String :=
  String.ofList ('"' :: s.toList.flatMap Quoted.escape ++ ['"'])

end TwoWay.Text
