import AbiBindings.Target

namespace AbiBindings

inductive Representation where
  /-- As primitives, which hold at most 128 bits. -/
  | native
  /-- As 256-bit words, whatever their width. -/
  | precise
  deriving DecidableEq, Repr

namespace Representation

def integer (mode : Representation) (bits : Nat) (signed : Bool) : Option Target :=
  match mode with
  | .precise => some (if signed then .wideInt else .wideUint)
  | .native => (NativeInt.forWidth bits signed).map .native

def target (mode : Representation) : Elementary → Option Target
  | .uint bits => mode.integer bits false
  | .int bits => mode.integer bits true
  | .address => some .address
  | .bool => some .bool
  | .fixedBytes size => some (.fixedBytes size)
  | .bytes => some .bytes
  | .string => some .string

end Representation

end AbiBindings
