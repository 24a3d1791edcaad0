import AbiBindings.Bindings.Basic
import AbiBindings.Naming.Claims
import AbiBindings.Resolution.Declarations

namespace AbiBindings

def pairMembers (claims : List Naming.Claim) (types : List Resolved) : List BindingParam :=
  (claims.zip types).map fun (c, type) => ⟨c.name, type⟩

/-- Arguments of one declaration, the diagnostics about those that were renamed, and the names
that are then in use. -/
def nameArguments (origin : String) (params : List Parameter) (types : List Resolved) :
    List BindingParam × List Diagnostic × Scope :=
  let (claims, scope) := Naming.claimMembers "param" 0 .empty (params.map (·.name))
  (pairMembers claims types, Naming.renamings origin claims, scope)

/-- Results of one function. Renaming them is not worth a diagnostic. -/
def nameResults (params : List Parameter) (types : List Resolved) : List BindingParam :=
  let (claims, _) := Naming.claimMembers "value" 0 .empty (params.map (·.name))
  pairMembers claims types

def valueArgument (m : Mutability) (scope : Scope) : Option String :=
  if m.isPayable then some (scope.claimNumbered "wei_value" "_").1 else none

def endsWith (name ending : String) : Bool := ending.toList.isSuffixOf name.toList

def claimRecord (abiName suffix : String) (types : Scope) : String × Scope :=
  let name := Naming.typeIdent abiName suffix
  types.claimNumbered (if endsWith name suffix then name else name ++ suffix) ""

end AbiBindings
