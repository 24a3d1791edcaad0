import AbiBindings.Bindings.Members

namespace AbiBindings

def TypeExpr.methodPart (t : TypeExpr) : String :=
  t.base.text ++ String.join (t.dims.map fun
    | some n => "_array" ++ toString n
    | none => "_array")

def methodParts (origin : String) : List Parameter → Except Failure (List String)
  | [] => .ok []
  | p :: ps =>
    match p.typeExpr origin with
    | .error e => .error e
    | .ok t => (methodParts origin ps).map (t.methodPart :: ·)

/-- What tells a later overload from the first, by the types it takes. -/
def overloadSuffix (d : ResolvedDeclaration) : Except Failure String :=
  if d.declaration.inputs.isEmpty then .ok "no_args"
  else (methodParts d.origin d.declaration.inputs).map ("_".intercalate ·)

/-- The method an overload wants. The first of its name goes without a suffix. -/
def wantedMethod (base : String) (isFirst : Bool) (d : ResolvedDeclaration) :
    Except Failure String :=
  if isFirst then .ok base
  else (overloadSuffix d).map fun suffix => base ++ "_with_" ++ suffix

def claimMethods (base : String) (isFirst : Bool) (scope : Scope) :
    List ResolvedDeclaration → Except Failure (List (ResolvedDeclaration × String) × Scope)
  | [] => .ok ([], scope)
  | d :: ds =>
    match wantedMethod base isFirst d with
    | .error e => .error e
    | .ok wanted =>
      let (method, scope) := scope.claimNumbered wanted "_"
      (claimMethods base false scope ds).map fun (rest, scope) => ((d, method) :: rest, scope)

/-- Functions by name, names in order of first appearance and overloads in their own order. -/
def overloads (ds : List ResolvedDeclaration) : List (String × List ResolvedDeclaration) :=
  let functions := ds.filter fun d => d.declaration.kind = .function
  let names := (functions.map fun d => d.declaration.nameOrKind).eraseDups
  names.map fun name => (name, functions.filter fun d => d.declaration.nameOrKind = name)

def claimGroups (scope : Scope) : List (String × List ResolvedDeclaration) →
    Except Failure (List (ResolvedDeclaration × String) × Scope)
  | [] => .ok ([], scope)
  | (name, ds) :: groups =>
    match claimMethods (Naming.valueIdent name "function") true scope ds with
    | .error e => .error e
    | .ok (methods, scope) =>
      (claimGroups scope groups).map fun (rest, scope) => (methods ++ rest, scope)

/-- A function with the method its mutability asks for. Its encoder is named later. -/
def bindFunction (d : ResolvedDeclaration) (method : String) : FunctionBinding × List Diagnostic :=
  let declaration := d.declaration
  let (inputs, diagnostics, scope) := nameArguments d.origin declaration.inputs d.inputs
  let reads := declaration.mutability.isReadOnly
  ({ abiName := declaration.nameOrKind
     signature := d.signature
     selector := selector d.signature
     encoder := ""
     inputs
     outputs := nameResults declaration.outputs d.outputs
     valueParam := valueArgument declaration.mutability scope
     call := if reads then some method else none
     transaction := if reads then none else some method },
    diagnostics)

def FunctionBinding.primary (f : FunctionBinding) : String :=
  (f.call.or f.transaction).getD f.abiName

def addAlternates (methods : Scope) : List FunctionBinding → List FunctionBinding × Scope
  | [] => ([], methods)
  | f :: fs =>
    let (f, methods) :=
      match f.call, f.transaction with
      | some call, none =>
        let (name, methods) := methods.claimNumbered ("send_" ++ call) "_"
        ({ f with transaction := some name }, methods)
      | none, some transaction =>
        let (name, methods) := methods.claimNumbered ("call_" ++ transaction) "_"
        ({ f with call := some name }, methods)
      | _, _ => (f, methods)
    let (fs, methods) := addAlternates methods fs
    (f :: fs, methods)

/-- Encoders are named after the methods that functions had at first. -/
def nameEncoders (methods : Scope) : List (FunctionBinding × String) → List FunctionBinding × Scope
  | [] => ([], methods)
  | (f, primary) :: fs =>
    let (encoder, methods) := methods.claimNumbered ("encode_" ++ primary) "_"
    let (fs, methods) := nameEncoders methods fs
    ({ f with encoder } :: fs, methods)

end AbiBindings
