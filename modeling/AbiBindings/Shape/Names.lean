import AbiBindings.Bindings.Basic
import AbiBindings.Naming.Claims
import AbiBindings.Shape.Table

namespace AbiBindings

namespace Shape

def wanted (shape : Shape) (id : StructId) : String :=
  match shape.hint with
  | some name => Naming.typeIdent name ("Struct" ++ toString id)
  | none => "Struct" ++ toString id

end Shape

/-- What has a name that a struct wanted. -/
inductive Holder where
  | contractHandle
  | otherShape
  | imported
  deriving DecidableEq, Repr

def Holder.text : Holder → String
  | .contractHandle => "the contract handle"
  | .otherShape => "a different tuple shape"
  | .imported => "a name the generated module imports"

def holderOf (contractType : String) (granted : List String) (name : String) : Holder :=
  if name = contractType then .contractHandle
  else if name ∈ granted then .otherShape
  else .imported

/-- A shape with the name it wants, and whether it may have it. -/
structure Candidate where
  shape : Shape
  wanted : String
  granted : Bool
  deriving DecidableEq, Repr

/-- Every shape first tries the name it wants. -/
def candidates (id : StructId) (scope : Scope) : ShapeTable → List Candidate × Scope
  | [] => ([], scope)
  | shape :: shapes =>
    let wanted := shape.wanted id
    let (granted, scope) := scope.tryClaim wanted
    let (rest, scope) := candidates (id + 1) scope shapes
    (⟨shape, wanted, granted⟩ :: rest, scope)

/-- Those who could not have the name they want take a numbered one, in order. -/
def settleNames (contractType : String) (granted : List String) (scope : Scope) :
    List Candidate → List String × List Diagnostic × Scope
  | [] => ([], [], scope)
  | c :: cs =>
    if c.granted then
      let (names, ds, scope) := settleNames contractType granted scope cs
      (c.wanted :: names, ds, scope)
    else
      let holder := holderOf contractType granted c.wanted
      let (renamed, scope) := scope.claimNumbered c.wanted ""
      let (names, ds, scope) := settleNames contractType (renamed :: granted) scope cs
      (renamed :: names,
        .structName c.wanted holder.text renamed c.shape.origin :: ds, scope)

def Shape.define (shape : Shape) (id : StructId) (name : String) :
    StructDefinition × List Diagnostic :=
  let (claims, _) := Naming.claimMembers "field" 0 .empty (shape.fields.map (·.1))
  let fields := (claims.zip shape.fields).map fun (c, abiName, type) => ⟨c.name, abiName, type⟩
  (⟨id, name, fields, shape.isDynamic⟩, Naming.renamings ("struct `" ++ name ++ "`") claims)

/-- Definitions in the order of the shapes; ids count from the one given. -/
def defineAll (id : StructId) : List (Shape × String) → List StructDefinition × List Diagnostic
  | [] => ([], [])
  | (shape, name) :: rest =>
    let (definition, ds) := shape.define id name
    let (definitions, ds') := defineAll (id + 1) rest
    (definition :: definitions, ds ++ ds')

/-- Names every shape. A numbered name never takes one that another shape wants. -/
def ShapeTable.name (table : ShapeTable) (scope : Scope) (contractType : String) :
    List StructDefinition × List Diagnostic × Scope :=
  let (cs, scope) := candidates 0 scope table
  let granted := (cs.filter (·.granted)).map (·.wanted)
  let (names, renamed, scope) := settleNames contractType granted scope cs
  let (definitions, fieldsRenamed) := defineAll 0 (table.zip names)
  (definitions, renamed ++ fieldsRenamed, scope)

end AbiBindings
