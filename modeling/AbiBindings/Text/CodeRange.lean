namespace AbiBindings.Text

/-- The code points `first`, `first + step`, `first + 2 * step` and so on, none above `last`. -/
structure CodeRange where
  first : Nat
  last : Nat
  step : Nat
  deriving DecidableEq, Repr

def CodeRange.contains (r : CodeRange) (code : Nat) : Bool :=
  r.first ≤ code && code ≤ r.last && (code - r.first) % r.step == 0

/-- Membership in a table whose ranges ascend by `first`.
The search ends at the first range that begins above the code point. -/
def inRanges : List CodeRange → Nat → Bool
  | [], _ => false
  | r :: rs, code => if code < r.first then false else r.contains code || inRanges rs code

end AbiBindings.Text
