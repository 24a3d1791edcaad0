import AbiBindings.Keccak
import AbiBindings.ModulePath
import AbiBindings.Representation
import AbiBindings.Resolved

namespace AbiBindings

structure BindingParam where
  name : String
  type : Resolved
  deriving DecidableEq, Repr

structure StructField where
  /-- Identifier in the generated code. -/
  name : String
  /-- Name as declared, possibly empty. -/
  abiName : String
  type : Resolved
  deriving DecidableEq, Repr

/-- The struct generated for one tuple shape. -/
structure StructDefinition where
  id : StructId
  name : String
  fields : List StructField
  isDynamic : Bool
  deriving DecidableEq, Repr

/-- One function overload. A function has a calling method, a sending method, or both. -/
structure FunctionBinding where
  abiName : String
  signature : String
  selector : Keccak.Selector
  encoder : String
  inputs : List BindingParam
  outputs : List BindingParam
  /-- The argument for the value sent along, which only payable functions take. -/
  valueParam : Option String
  call : Option String
  transaction : Option String
  deriving DecidableEq, Repr

/-- Where an event field is read from: a place among the topics, or among the values in the data. -/
inductive FieldSource where
  | topic (index : Nat)
  | data (index : Nat)
  deriving DecidableEq, Repr

def FieldSource.isTopic : FieldSource → Bool
  | .topic _ => true
  | .data _ => false

structure EventField where
  name : String
  type : Resolved
  source : FieldSource
  deriving DecidableEq, Repr

structure EventBinding where
  abiName : String
  signature : String
  topic : Keccak.Digest
  anonymous : Bool
  recordName : String
  filterMethod : String
  fields : List EventField
  deriving DecidableEq, Repr

structure ErrorBinding where
  abiName : String
  signature : String
  selector : Keccak.Selector
  recordName : String
  fields : List BindingParam
  deriving DecidableEq, Repr

/-- How the contract is deployed. Without a constructor there is no signature. -/
structure DeployHelper where
  bytecode : String
  signature : Option String
  inputs : List BindingParam
  providerParam : String
  valueParam : Option String
  deriving DecidableEq, Repr

structure ContractBindings where
  contractName : String
  /-- Identifier of the contract handle. -/
  typeName : String
  fileStem : String
  modulePath : ModulePath
  representation : Representation
  structs : List StructDefinition
  functions : List FunctionBinding
  events : List EventBinding
  errors : List ErrorBinding
  deploy : Option DeployHelper
  hasFallback : Bool
  hasReceive : Bool
  publicEncoders : Bool
  deriving DecidableEq, Repr

namespace FunctionBinding

def methodNames (f : FunctionBinding) : List String := f.call.toList ++ f.transaction.toList

end FunctionBinding

namespace EventBinding

/-- How many topics a matching log carries. The signature is one unless the event is anonymous. -/
def topicCount (e : EventBinding) : Nat :=
  let indexed := e.fields.countP fun f => f.source.isTopic
  if e.anonymous then indexed else indexed + 1

def dataFields (e : EventBinding) : List EventField := e.fields.filter fun f => !f.source.isTopic

end EventBinding

namespace ContractBindings

def structDef? (b : ContractBindings) (id : StructId) : Option StructDefinition :=
  b.structs[id]?.filter fun d => d.id = id

def structByName? (b : ContractBindings) (name : String) : Option StructDefinition :=
  b.structs.find? fun d => d.name = name

def function? (b : ContractBindings) (method : String) : Option FunctionBinding :=
  b.functions.find? fun f => f.methodNames.contains method

def event? (b : ContractBindings) (abiName : String) : Option EventBinding :=
  b.events.find? fun e => e.abiName = abiName

def outputPath (b : ContractBindings) (root : String) : String :=
  Path.join (b.modulePath.directory root) (b.fileStem ++ ".rs")

end ContractBindings

end AbiBindings
