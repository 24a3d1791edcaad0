import AbiBindings.Elementary

namespace AbiBindings

/-- The place of a tuple shape in the list of generated structs. Fewer than 2 ^ 32 shapes are assumed,
so that a place fits where an id is kept in 32 bits. -/
abbrev StructId := Nat

/-- How a value travels between caller and contract. -/
inductive Wire where
  | elementary (e : Elementary)
  | array (element : Wire) (length : Option Nat)
  | tuple (id : StructId)
  deriving DecidableEq, Repr

def Wire.isHashedInTopic : Wire → Bool
  | .elementary e => e.isDynamic
  | .array _ _ => true
  | .tuple _ => true

end AbiBindings
