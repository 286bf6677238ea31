/-!
What can be wrong with a grammar or a needle. Each fault is found when the
pattern or the needle is made, before any text is read or synthesized.
-/

namespace TwoWay

inductive Defect where
  /-- The pattern could match text away from the start of the input. -/
  | unanchored (source : String)
  /-- The pattern is no regular expression. -/
  | malformed (source : String)
  | emptyNeedle
  /-- The needle is not an object but a value of the type `found`. -/
  | needleNotMap (found : String)
  /-- The needle asks for a list, map or slot under `key`. -/
  | compositeField (key found : String)
  deriving DecidableEq, Repr

namespace Defect

def message : Defect → String
  | .unanchored source =>
      "pattern `" ++ source ++ "` is not anchored to the start of input"
  | .malformed source => "pattern `" ++ source ++ "` does not compile"
  | .emptyNeedle => "needle must have at least one key"
  | .needleNotMap found => "needle must be an object, found " ++ found
  | .compositeField key found =>
      "needle field `" ++ key ++ "` must be a primitive value, found " ++ found

/-- The stable name of the fault in reports. -/
def code : Defect → String
  | .unanchored _ => "revparse::grammar::unanchored_pattern"
  | .malformed _ => "revparse::grammar::invalid_pattern"
  | .emptyNeedle => "revparse::invert::empty_needle"
  | .needleNotMap _ => "revparse::invert::needle_not_object"
  | .compositeField _ _ => "revparse::invert::non_primitive_needle_value"

/-- Advice for mending the fault, where there is some. -/
def help? : Defect → Option String
  | .unanchored _ =>
      some "begin the pattern with `^`, or with `$` for an end-of-input probe"
  | .emptyNeedle =>
      some "an inversion target names the fields the grammar's terminal value must carry"
  | _ => none

end Defect

end TwoWay
