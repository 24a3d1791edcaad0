import AbiBindings.Bindings.Members

namespace AbiBindings

/-- Where the inputs of an event are read from: indexed ones from the topics, in order, and the
others from the data, in order. -/
def placeFields (topic data : Nat) : List (String × Parameter × Resolved) → List EventField
  | [] => []
  | (name, p, type) :: rest =>
    if p.indexed then
      let type := if type.wire.isHashedInTopic then Resolved.topicHash else type
      ⟨name, type, .topic topic⟩ :: placeFields (topic + 1) data rest
    else ⟨name, type, .data data⟩ :: placeFields topic (data + 1) rest

def Declaration.firstTopic (d : Declaration) : Nat := if d.anonymous then 0 else 1

def eventFields (d : ResolvedDeclaration) : List EventField × List Diagnostic :=
  let params := d.declaration.inputs
  let (claims, _) := Naming.claimMembers "param" 0 .empty (params.map (·.name))
  let named := (claims.map (·.name)).zip (params.zip d.inputs)
  (placeFields d.declaration.firstTopic 0 named, Naming.renamings d.origin claims)

def bindEvents (types methods : Scope) :
    List ResolvedDeclaration → List EventBinding × List Diagnostic × Scope × Scope
  | [] => ([], [], types, methods)
  | d :: ds =>
    let abiName := d.declaration.nameOrKind
    let (recordName, types) := claimRecord abiName "Event" types
    let (filterMethod, methods) :=
      methods.claimNumbered (Naming.valueIdent abiName "log" ++ "_events") "_"
    let (fields, diagnostics) := eventFields d
    let event : EventBinding :=
      { abiName, signature := d.signature, topic := eventTopic d.signature
        anonymous := d.declaration.anonymous, recordName, filterMethod, fields }
    let (events, more, types, methods) := bindEvents types methods ds
    (event :: events, diagnostics ++ more, types, methods)

def bindErrors (types : Scope) :
    List ResolvedDeclaration → List ErrorBinding × List Diagnostic × Scope
  | [] => ([], [], types)
  | d :: ds =>
    let abiName := d.declaration.nameOrKind
    let (recordName, types) := claimRecord abiName "Error" types
    let (fields, diagnostics, _) := nameArguments d.origin d.declaration.inputs d.inputs
    let error : ErrorBinding :=
      { abiName, signature := d.signature, selector := selector d.signature, recordName, fields }
    let (errors, more, types) := bindErrors types ds
    (error :: errors, diagnostics ++ more, types)

def bindDeploy (ds : List ResolvedDeclaration) (bytecode : String) :
    DeployHelper × List Diagnostic :=
  match ds.find? fun d => d.declaration.kind = .constructor with
  | none =>
    ({ bytecode, signature := none, inputs := [], valueParam := none
       providerParam := (Scope.empty.claimNumbered "provider" "_").1 }, [])
  | some d =>
    let (inputs, diagnostics, scope) := nameArguments d.origin d.declaration.inputs d.inputs
    let (providerParam, scope) := scope.claimNumbered "provider" "_"
    ({ bytecode, signature := some d.signature, inputs, providerParam
       valueParam := valueArgument d.declaration.mutability scope }, diagnostics)

end AbiBindings
