/-!
The shortest decimal that reads back as a given binary number.

A finite double is `m * 2 ^ q`. The reals that round to it form an interval,
whose ends belong to it when `m` is even. Of the decimal grids `10 ^ j` the
coarsest one with a point in the interval is taken, and of its points there the
one nearest the number; a tie goes to the greater. Only the two neighbours of
the number on a grid need to be tried, for if any point of the grid lies in the
interval then one of these does.

Every double and both ends of its interval are whole multiples of
`10 ^ (-1076)`, so all comparisons are between natural numbers in that unit.
-/

namespace TwoWay

/-- The number `coefficient * 10 ^ exponent`. -/
structure Decimal where
  coefficient : Nat
  exponent : Int
  deriving DecidableEq, Repr

namespace Decimal

/-- The decimal places of the unit in which doubles are compared. -/
def places : Nat := 1076

/-- The number `m * 2 ^ (q - 1076)` in units of `10 ^ (-1076)`. -/
def scaled (m q : Nat) : Nat := m * Nat.pow 2 q * Nat.pow 5 places

/-- A number with the interval of reals that round to it, all in units of
`10 ^ (-1076)`. -/
structure Target where
  low : Nat
  value : Nat
  high : Nat
  /-- Whether the ends of the interval round to the number too. -/
  closed : Bool

def Target.admits (t : Target) (n : Nat) : Bool :=
  if t.closed then t.low ≤ n && n ≤ t.high else t.low < n && n < t.high

/-- The interval of the double `m * 2 ^ (e - 1074)`. Below a power of two the
doubles lie twice as dense as above it, unless they are subnormal. -/
def Target.ofDouble (m e : Nat) : Target where
  low := if m = Nat.pow 2 52 && 0 < e then scaled (4 * m - 1) e else scaled (4 * m - 2) e
  value := scaled (4 * m) e
  high := scaled (4 * m + 2) e
  closed := m % 2 = 0

/-- The point of the grid of multiples of `step` that stands for the target, as
a count of steps: its nearer admitted neighbour. -/
def Target.pointOn? (t : Target) (step : Nat) : Option Nat :=
  let below := t.value / step
  let remainder := t.value % step
  match t.admits (below * step), t.admits ((below + 1) * step) with
  | true, true => some (if 2 * remainder < step then below else below + 1)
  | true, false => some below
  | false, true => some (below + 1)
  | false, false => none

/-- The same number with no zero at the end of its coefficient. `fuel` bounds
the zeros that are dropped. -/
def trim : (fuel : Nat) → Decimal → Decimal
  | 0, d => d
  | fuel + 1, d =>
      if d.coefficient % 10 = 0 then
        trim fuel ⟨d.coefficient / 10, d.exponent + 1⟩
      else d

/-- Tries the grids from `10 ^ (digits - 1)` units down, the coarsest first. -/
def Target.search (t : Target) : (digits : Nat) → Decimal
  | 0 => ⟨t.value, -places⟩
  | digits + 1 =>
      match t.pointOn? (Nat.pow 10 digits) with
      | some n => trim 17 ⟨n, (digits : Int) - places⟩
      | none => t.search digits

/-- The shortest decimal that rounds to the double `m * 2 ^ (e - 1074)`. A
number has no more decimal digits than a third of its binary ones and one. -/
def shortest (m e : Nat) : Decimal :=
  let t := Target.ofDouble m e
  t.search (t.value.log2 / 3 + 1)

end Decimal

end TwoWay
