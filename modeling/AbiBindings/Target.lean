import AbiBindings.Wire

namespace AbiBindings

inductive NativeSize where
  | s8
  | s16
  | s32
  | s64
  | s128
  deriving DecidableEq, Repr

def NativeSize.bits : NativeSize → Nat
  | .s8 => 8
  | .s16 => 16
  | .s32 => 32
  | .s64 => 64
  | .s128 => 128

structure NativeInt where
  signed : Bool
  size : NativeSize
  deriving DecidableEq, Repr

namespace NativeInt

def text (n : NativeInt) : String :=
  (if n.signed then "i" else "u") ++ toString n.size.bits

def forWidth (bits : Nat) (signed : Bool) : Option NativeInt :=
  if bits ≤ 8 then some ⟨signed, .s8⟩
  else if bits ≤ 16 then some ⟨signed, .s16⟩
  else if bits ≤ 32 then some ⟨signed, .s32⟩
  else if bits ≤ 64 then some ⟨signed, .s64⟩
  else if bits ≤ 128 then some ⟨signed, .s128⟩
  else none

end NativeInt

inductive Target where
  | bool
  | address
  | native (n : NativeInt)
  | wideUint
  | wideInt
  | fixedBytes (size : Nat)
  | bytes
  | string
  /-- What is left of an indexed value that only its hash represents. -/
  | hash
  | vec (element : Target)
  | array (element : Target) (length : Nat)
  | struct (id : StructId)
  deriving DecidableEq, Repr

end AbiBindings
