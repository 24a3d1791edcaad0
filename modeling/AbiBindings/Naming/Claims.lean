import AbiBindings.Diagnostic
import AbiBindings.Naming.Identifier
import AbiBindings.Naming.Scope

namespace AbiBindings.Naming

/-- A member's identifier as its raw name gives it, and as it was granted. -/
structure Claim where
  base : String
  name : String
  renamed : Bool
  deriving DecidableEq, Repr

/-- Grants identifiers in order. A member whose raw name gives none is called by a label and its
position. -/
def claimMembers (label : String) (position : Nat) (scope : Scope) :
    List String → List Claim × Scope
  | [] => ([], scope)
  | raw :: raws =>
    let base := valueIdent raw (label ++ toString position)
    let ((name, renamed), scope) := scope.claimPositional base position
    let (claims, scope) := claimMembers label (position + 1) scope raws
    (⟨base, name, renamed⟩ :: claims, scope)

def renamings (owner : String) (claims : List Claim) : List Diagnostic :=
  (claims.filter (·.renamed)).map fun c => .duplicateField owner c.base c.name

end AbiBindings.Naming
