namespace AbiBindings.Text

def hexByte (b : UInt8) : String :=
  String.ofList [Nat.digitChar (b.toNat / 16), Nat.digitChar (b.toNat % 16)]

def hexBytes (bytes : List UInt8) : String := String.join (bytes.map hexByte)

end AbiBindings.Text
