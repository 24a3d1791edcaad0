import AbiBindings.Files.Fault
import AbiBindings.Interface.Fault
import AbiBindings.ModulePath
import AbiBindings.TypeExpr.Parser

namespace AbiBindings

inductive TypeFault where
  | unreadable (e : TypeExpr.ParseError)
  | tupleWithoutComponents
  | strayTuple
  deriving DecidableEq, Repr

def TypeFault.message : TypeFault → String
  | .unreadable e => e.message
  | .tupleWithoutComponents => "tuple type without components"
  | .strayTuple => "tuple type outside the struct synthesizer"

/-- Why no bindings come about. -/
inductive Failure where
  | interface (fault : Interface.Fault)
  | tooManyIndexed (origin : String) (count limit : Nat)
  | invalidType (typeText context : String) (fault : TypeFault)
  | unsupportedPrecision (affected : List String)
  | invalidPackage (package : String) (fault : ModulePath.Fault)
  | emission (path : String) (fault : Files.Fault)

def Failure.message : Failure → String
  | .interface fault => "Malformed interface description: " ++ fault.message
  | .tooManyIndexed origin count limit =>
    "Malformed interface description: " ++ origin ++ " has " ++ toString count
      ++ " indexed parameters, at most " ++ toString limit ++ " are allowed"
  | .invalidType typeText context fault =>
    "Invalid type `" ++ typeText ++ "` in " ++ context ++ ": " ++ fault.message
  | .unsupportedPrecision affected =>
    "Native representation cannot hold " ++ ", ".intercalate affected
      ++ " without precision loss; use precise mode"
  | .invalidPackage package fault => "Invalid package `" ++ package ++ "`: " ++ fault.message
  | .emission path fault => "Failed to write bindings to " ++ path ++ ": " ++ fault.message

def ModulePath.parse (package : String) : Except Failure ModulePath :=
  let trimmed := Text.trim package
  (ModulePath.ofTrimmed trimmed).mapError (.invalidPackage trimmed)

end AbiBindings
