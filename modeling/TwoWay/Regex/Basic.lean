import TwoWay.Regex.Lower
import TwoWay.Regex.Search
import TwoWay.Regex.TreeReader

/-!
A regular expression made from its text. The options say which flags hold from
its start; a text may also be read without them, as the tree that it shows on
its own. What the names of properties mean is told by a table, whatever the
options are.
-/

namespace TwoWay.Regex

/-- What holds from the start of a text that is made into a regular
expression. -/
structure Options where
  flags : Flags
  /-- Whether blanks and comments are skipped. -/
  spaced : Bool
  /-- Whether a backslash before digits names a character in base eight. -/
  octal : Bool
  /-- How deep its parts may nest. -/
  nesting : Nat := Reader.nestingLimit
  deriving DecidableEq, Repr

/-- The options where none are asked for. -/
def Options.default : Options where
  flags := .default
  spaced := false
  octal := false

end TwoWay.Regex

namespace TwoWay

/-- A regular expression with the text it was made from, the number of its
capturing groups, and the names of those that have one. -/
structure Regex where
  source : String
  expr : Regex.Expr
  groups : Nat
  names : List (String × Nat)
  deriving DecidableEq

namespace Regex

/-- The expression that a text stands for, if it is well formed. -/
def compile? (table : PropertyTable) (options : Options) (source : String) : Option Regex := do
  let reading ← Reader.readTree? options.spaced options.octal source.toList options.nesting
  let (expr, _) ← reading.tree.lower? table options.flags
  return ⟨source, expr, reading.groups, reading.names⟩

end Regex

end TwoWay
