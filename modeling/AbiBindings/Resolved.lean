import AbiBindings.Target

namespace AbiBindings

structure Resolved where
  wire : Wire
  target : Target
  isDynamic : Bool
  deriving DecidableEq, Repr

namespace Resolved

def topicHash : Resolved := ⟨.elementary (.fixedBytes 32), .hash, false⟩

def arrayOf (element : Resolved) (length : Option Nat) : Resolved where
  wire := .array element.wire length
  target := match length with
    | some n => .array element.target n
    | none => .vec element.target
  isDynamic := length.isNone || element.isDynamic

/-- Array dimensions wrap an element from the inside out. -/
def withDims (element : Resolved) (dims : List (Option Nat)) : Resolved :=
  dims.foldl arrayOf element

end Resolved

end AbiBindings
