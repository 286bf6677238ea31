import TwoWay.Decimal.Shortest
import TwoWay.Value.Basic

/-!
The text of a value. A number is written with the fewest digits that read back
as it, never with an exponent and with no fraction when it is whole; a map is
written with its keys in increasing order.
-/

namespace TwoWay

namespace Decimal

def digits (d : Decimal) : List Char := (Nat.repr d.coefficient).toList

/-- The decimal written out in full, by position. -/
def positional (d : Decimal) : List Char :=
  match d.exponent with
  | .ofNat zeros => d.digits ++ List.replicate zeros '0'
  | .negSucc n =>
      let fraction := n + 1
      let digits := d.digits
      if fraction < digits.length then
        digits.take (digits.length - fraction) ++ '.' :: digits.drop (digits.length - fraction)
      else
        '0' :: '.' :: (List.replicate (fraction - digits.length) '0' ++ digits)

/-- The text of the double with the given bits: its sign, then its magnitude
by position. -/
def textOfBits (bits : Nat) : String :=
  let sign := if bits.testBit 63 then ['-'] else []
  let exponent := (bits >>> 52) % 2048
  let fraction := bits % Nat.pow 2 52
  if exponent = 2047 then
    if fraction = 0 then String.ofList (sign ++ ['i', 'n', 'f']) else "NaN"
  else if exponent = 0 && fraction = 0 then String.ofList (sign ++ ['0'])
  else
    let d :=
      if exponent = 0 then shortest fraction 0
      else shortest (Nat.pow 2 52 + fraction) (exponent - 1)
    String.ofList (sign ++ d.positional)

end Decimal

namespace Value

def numberText (n : Float) : String := Decimal.textOfBits n.toBits.toNat

def text : Value → String
  | .nil => "nil"
  | .number n => numberText n
  | .string s => s
  | .bool b => if b then "true" else "false"
  | .list items => "[" ++ ", ".intercalate (itemTexts items) ++ "]"
  | .map bindings =>
      "\x7b" ++
        ", ".intercalate
          ((Bindings.normal (fieldTexts bindings)).map fun (k, v) => k ++ ": " ++ v) ++
        "\x7d"
  | .slot handle => "<slot " ++ Nat.repr handle.index ++ ">"
where
  itemTexts : List Value → List String
    | [] => []
    | v :: rest => text v :: itemTexts rest
  fieldTexts : List (String × Value) → List (String × String)
    | [] => []
    | (k, v) :: rest => (k, text v) :: fieldTexts rest

/-- The text that a needle's field contributes to synthesized output. Nothing,
lists, maps and slots contribute none. -/
def needleText? (v : Value) : Option String :=
  match v with
  | .number _ | .string _ | .bool _ => some v.text
  | _ => none

end Value

end TwoWay
