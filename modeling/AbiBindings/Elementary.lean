namespace AbiBindings

inductive Elementary where
  | uint (bits : Nat)
  | int (bits : Nat)
  | address
  | bool
  | fixedBytes (size : Nat)
  | bytes
  | string
  deriving DecidableEq, Repr

namespace Elementary

def text : Elementary → String
  | .uint bits => "uint" ++ toString bits
  | .int bits => "int" ++ toString bits
  | .address => "address"
  | .bool => "bool"
  | .fixedBytes size => "bytes" ++ toString size
  | .bytes => "bytes"
  | .string => "string"

def isDynamic : Elementary → Bool
  | .bytes | .string => true
  | _ => false

end Elementary

end AbiBindings
