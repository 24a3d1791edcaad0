import AbiBindings.Elementary

namespace AbiBindings

/-- What a type is before its array suffixes. The parts of a tuple are declared beside its type. -/
inductive Base where
  | elementary (e : Elementary)
  | tuple
  deriving DecidableEq, Repr

def Base.text : Base → String
  | .elementary e => e.text
  | .tuple => "tuple"

/-- A type as interfaces spell it: a base and its array dimensions, innermost first.
A dimension without a length is a dynamic array. -/
structure TypeExpr where
  base : Base
  dims : List (Option Nat)
  deriving DecidableEq, Repr

namespace TypeExpr

def isTuple (t : TypeExpr) : Bool := t.base = .tuple

def isArray (t : TypeExpr) : Bool := !t.dims.isEmpty

def dimText : Option Nat → String
  | some n => "[" ++ toString n ++ "]"
  | none => "[]"

def suffix (t : TypeExpr) : String := String.join (t.dims.map dimText)

def text (t : TypeExpr) : String := t.base.text ++ t.suffix

end TypeExpr

end AbiBindings
