namespace AbiBindings

inductive DiagnosticKind where
  | nameCollision
  | duplicateField
  | duplicateDeclaration
  deriving DecidableEq, Repr

/-- Something worth telling that does not stop the generation. -/
inductive Diagnostic where
  /-- A tuple struct could not have the name it wanted. -/
  | structName (taken holder renamed origin : String)
  | contractName (contract taken renamed : String)
  | duplicateField (owner field renamed : String)
  | duplicateDeclaration (description signature : String)
  deriving DecidableEq, Repr

namespace Diagnostic

def kind : Diagnostic → DiagnosticKind
  | .structName .. | .contractName .. => .nameCollision
  | .duplicateField .. => .duplicateField
  | .duplicateDeclaration .. => .duplicateDeclaration

def message : Diagnostic → String
  | .structName taken holder renamed origin =>
    "Struct name collision: `" ++ taken ++ "` already names " ++ holder ++ ", tuple from "
      ++ origin ++ " generated as `" ++ renamed ++ "`"
  | .contractName contract taken renamed =>
    "Contract name collision: `" ++ taken ++ "` is already used by the generated module, contract `"
      ++ contract ++ "` generated as `" ++ renamed ++ "`"
  | .duplicateField owner field renamed =>
    "Duplicate field(s) found in " ++ owner ++ ": `" ++ field ++ "` renamed to `" ++ renamed ++ "`"
  | .duplicateDeclaration description signature =>
    "Duplicate declaration " ++ description ++ " with signature `" ++ signature ++ "` ignored"

def count (ds : List Diagnostic) (kind : DiagnosticKind) : Nat :=
  ds.countP fun d => d.kind = kind

end Diagnostic

end AbiBindings
