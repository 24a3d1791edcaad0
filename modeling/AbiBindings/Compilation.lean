import AbiBindings.Bindings.Functions
import AbiBindings.Bindings.Records
import AbiBindings.Interface.Description
import AbiBindings.Shape.Names

namespace AbiBindings

structure Options where
  representation : Representation := .precise
  /-- Give every function both a calling and a sending method. -/
  callAndSend : Bool := false
  /-- Make the encoders of calldata public. -/
  abiFuncs : Bool := false
  deriving DecidableEq, Repr

structure Source where
  name : String
  /-- The text of the interface. -/
  interface : String
  package : String
  /-- Bytecode that takes precedence over an artifact's own. -/
  bytecode : Option String := none

/-- A result with the diagnostics reported on the way to it, also on the way to a failure. -/
structure Outcome (α : Type) where
  diagnostics : List Diagnostic
  result : Except Failure α

def reservedTypeNames : List String :=
  ["Box", "Option", "P", "ParamType", "Result", "String", "Token", "Tokenize", "Vec"]

def reservedMethodNames : List String := ["address", "at", "deploy", "raw_transaction"]

def ofKind (kind : Kind) (ds : List ResolvedDeclaration) : List ResolvedDeclaration :=
  ds.filter fun d => d.declaration.kind = kind

/-- The type name of the contract handle, which is the first that the module's own names make
room for. -/
def nameContract (contractName : String) : String × List Diagnostic × Scope :=
  let wanted := Naming.typeIdent contractName "Contract"
  let (typeName, types) := (Scope.reserving reservedTypeNames).claimNumbered wanted ""
  (typeName,
    if typeName = wanted then [] else [.contractName contractName wanted typeName],
    types)

/-- Names everything that was resolved. Structs come before functions, functions before events, and
events before errors; what comes later yields to what came earlier. -/
def buildBindings (options : Options) (contractName : String) (modulePath : ModulePath)
    (shapes : ShapeTable) (ds : List ResolvedDeclaration) (bytecode : Option String) :
    Outcome ContractBindings :=
  let (typeName, contractDiagnostics, types) := nameContract contractName
  let (structs, structDiagnostics, types) := shapes.name types typeName
  match claimGroups (.reserving reservedMethodNames) (overloads ds) with
  | .error e => ⟨contractDiagnostics ++ structDiagnostics, .error e⟩
  | .ok (claimed, methods) =>
    let bound := claimed.map fun (d, method) => bindFunction d method
    let functions := bound.map (·.1)
    let primaries := functions.map (·.primary)
    let (functions, methods) :=
      if options.callAndSend then addAlternates methods functions else (functions, methods)
    let (events, eventDiagnostics, types, methods) := bindEvents types methods (ofKind .event ds)
    let (errors, errorDiagnostics, _) := bindErrors types (ofKind .error ds)
    let (functions, _) := nameEncoders methods (functions.zip primaries)
    let deploy := bytecode.map (bindDeploy ds)
    { diagnostics := contractDiagnostics ++ structDiagnostics ++ bound.flatMap (·.2)
        ++ eventDiagnostics ++ errorDiagnostics ++ (deploy.map (·.2)).getD []
      result := .ok
        { contractName, typeName
          fileStem := Naming.valueIdent contractName "contract"
          modulePath
          representation := options.representation
          structs, functions, events, errors
          deploy := deploy.map (·.1)
          hasFallback := !(ofKind .fallback ds).isEmpty
          hasReceive := !(ofKind .receive ds).isEmpty
          publicEncoders := options.abiFuncs } }

def Gathered.checkPrecision (g : Gathered) : Except Failure Unit :=
  if g.losses.isEmpty then .ok () else .error (.unsupportedPrecision g.losses)

/-- Compiles declarations. The bytecode is taken as it is. -/
def compileDeclarations (options : Options) (contractName : String) (modulePath : ModulePath)
    (declarations : List Declaration) (bytecode : Option String) : Outcome ContractBindings :=
  match resolveDeclarations options.representation [] .empty declarations with
  | (diagnostics, .error e) => ⟨diagnostics, .error e⟩
  | (diagnostics, .ok (ds, g)) =>
    match g.checkPrecision with
    | .error e => ⟨diagnostics, .error e⟩
    | .ok () =>
      let outcome := buildBindings options contractName modulePath g.shapes ds bytecode
      { outcome with diagnostics := diagnostics ++ outcome.diagnostics }

/-- Compiles an interface. The package is looked at before the interface. -/
def compile (options : Options) (source : Source) : Outcome ContractBindings :=
  match ModulePath.parse source.package with
  | .error e => ⟨[], .error e⟩
  | .ok modulePath =>
    match Interface.parse source.interface with
    | .error fault => ⟨[], .error (.interface fault)⟩
    | .ok interface =>
      compileDeclarations options source.name modulePath interface.declarations
        ((source.bytecode.bind Interface.normalizeBytecode).or interface.bytecode)

end AbiBindings
