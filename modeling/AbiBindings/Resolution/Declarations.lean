import AbiBindings.Diagnostic
import AbiBindings.Resolution.Parameters

namespace AbiBindings

structure ResolvedDeclaration where
  declaration : Declaration
  origin : String
  signature : String
  inputs : List Resolved
  outputs : List Resolved

/-- Slots that an event's topics offer, the one of its signature included. -/
def maxTopics : Nat := 4

def Declaration.indexedLimit (d : Declaration) : Nat :=
  if d.anonymous then maxTopics else maxTopics - 1

def Declaration.checkIndexed (d : Declaration) : Except Failure Unit :=
  let indexed := d.inputs.countP (·.indexed)
  if d.kind = .event ∧ d.indexedLimit < indexed then
    .error (.tooManyIndexed d.describe indexed d.indexedLimit)
  else .ok ()

/-- What tells declarations apart. Of a kind without names there is only one. -/
def Declaration.identity (d : Declaration) (signature : String) : Kind × String :=
  (d.kind, if d.kind.isNamed then signature else "")

/-- Only the outputs of functions count. -/
def Declaration.results (d : Declaration) : List Parameter :=
  if d.kind = .function then d.outputs else []

def Declaration.resolve (mode : Representation) (g : Gathered) (d : Declaration)
    (signature : String) : Except Failure (ResolvedDeclaration × Gathered) :=
  match d.checkIndexed with
  | .error e => .error e
  | .ok () =>
    match resolveParameters mode d.describe g d.inputs with
    | .error e => .error e
    | .ok (inputs, g) =>
      match resolveParameters mode d.describe g d.results with
      | .error e => .error e
      | .ok (outputs, g) => .ok (⟨d, d.describe, signature, inputs, outputs⟩, g)

/-- Resolves declarations in order. One that repeats an earlier one is reported and left out; its
types other than those in its signature are not looked at. -/
def resolveDeclarations (mode : Representation) (seen : List (Kind × String)) (g : Gathered) :
    List Declaration → List Diagnostic × Except Failure (List ResolvedDeclaration × Gathered)
  | [] => ([], .ok ([], g))
  | d :: ds =>
    match signature d.nameOrKind d.inputs d.describe with
    | .error e => ([], .error e)
    | .ok sig =>
      if d.identity sig ∈ seen then
        let (diagnostics, result) := resolveDeclarations mode seen g ds
        (.duplicateDeclaration d.describe sig :: diagnostics, result)
      else
        match d.resolve mode g sig with
        | .error e => ([], .error e)
        | .ok (resolved, g) =>
          let (diagnostics, result) := resolveDeclarations mode (d.identity sig :: seen) g ds
          (diagnostics, result.map fun (rest, g) => (resolved :: rest, g))

end AbiBindings
