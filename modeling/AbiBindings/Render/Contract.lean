import AbiBindings.Render.Record

namespace AbiBindings.Render

def valueExpression : Option String → String
  | some value => "Some(" ++ value ++ ")"
  | none => "None"

def valueParameter : Option String → List String
  | some value => [value ++ ": ethabi::Uint"]
  | none => []

def selectorText (s : Keccak.Selector) : String := "`0x" ++ Text.hexBytes s.toList ++ "`"

def encoderCall (f : FunctionBinding) : String :=
  "self::" ++ f.encoder ++ "(" ++ commaList (f.inputs.map (·.name)) ++ ")"

/-- The type of a function's results: one stands alone, any other number is a tuple. -/
def returnType (names : StructNames) : List BindingParam → String
  | [] => "()"
  | [output] => typeName names output.type.target
  | outputs => "(" ++ commaList (outputs.map fun p => typeName names p.type.target) ++ ")"

def decodeOutputs (names : StructNames) (outputs : List BindingParam) : List Step :=
  let locals := numberedNames "token" outputs.length
  let decode := "rt::decode_output::<" ++ toString outputs.length ++ ">("
    ++ paramTypes names (outputs.map (·.type.wire)) ++ ", output)?;"
  let values := (outputs.zip locals).map fun (p, token) =>
    fromToken names p.type.wire p.type.target token 0
  .line ("let [" ++ commaList locals ++ "] = " ++ decode)
    :: match values with
      | [value] => [.line value]
      | values => itemList "Ok((" (values.map fun value => value ++ "?") "))"

def callMethod (names : StructNames) (f : FunctionBinding) (method : String) : List Step :=
  docLine ("Calls `" ++ f.signature ++ "` (selector " ++ selectorText f.selector
      ++ ") without sending a transaction.")
    :: block ("pub fn " ++ method ++ "(" ++ commaList ("&self" :: arguments names f.inputs)
        ++ ") -> rt::RemoteCall<" ++ returnType names f.outputs ++ ">")
      (if f.outputs.isEmpty then
        [.line ("self.inner.call(" ++ encoderCall f ++ ", |_output| Ok(()))")]
      else block ("self.inner.call(" ++ encoderCall f ++ ", |output|")
        (decodeOutputs names f.outputs) "\x7d)")

def transactionMethod (names : StructNames) (f : FunctionBinding) (method : String) : List Step :=
  docLine ("Sends a transaction calling `" ++ f.signature ++ "` (selector "
      ++ selectorText f.selector ++ ").")
    :: block ("pub fn " ++ method ++ "("
        ++ commaList ("&self" :: arguments names f.inputs ++ valueParameter f.valueParam)
        ++ ") -> rt::RemoteTransaction")
      [.line ("self.inner.send(" ++ encoderCall f ++ ", " ++ valueExpression f.valueParam ++ ")")]

def deployMethod (names : StructNames) (d : DeployHelper) : List Step :=
  let constructorText := match d.signature with
    | some signature => "Deploys a new instance through `" ++ signature ++ "`."
    | none => "Deploys a new instance."
  let params := (d.providerParam ++ ": P") :: arguments names d.inputs
    ++ valueParameter d.valueParam
  let encoded :=
    if d.inputs.isEmpty then "Vec::new()" else "ethabi::encode(" ++ argumentTokens d.inputs ++ ")"
  docLine constructorText
    :: block ("pub fn deploy(" ++ commaList params ++ ") -> rt::RemoteDeployment<P, Self>")
      [.line ("rt::RemoteDeployment::new(" ++ d.providerParam ++ ", BYTECODE, " ++ encoded ++ ", "
        ++ valueExpression d.valueParam ++ ", Self::at)")]

def filterMethod (e : EventBinding) : List Step :=
  let topic := if e.anonymous then "None" else "Some(" ++ e.recordName ++ "::TOPIC)"
  docLine ("Filter over `" ++ e.abiName ++ "` logs.")
    :: block ("pub fn " ++ e.filterMethod ++ "(&self) -> rt::EventFilter<" ++ e.recordName ++ ">")
      [.line ("self.inner.event_filter(" ++ topic ++ ", " ++ e.recordName ++ "::decode_log)")]

def functionMethods (names : StructNames) (f : FunctionBinding) : List Step :=
  (match f.call with
    | some method => .blank :: callMethod names f method
    | none => [])
  ++ (match f.transaction with
    | some method => .blank :: transactionMethod names f method
    | none => [])

/-- The way past the declared functions, for contracts that take such calls. -/
def rawTransaction : List Step :=
  docLine "Sends raw calldata, reaching the fallback or receive entry point."
    :: block ("pub fn raw_transaction(&self, data: Vec<u8>, wei_value: Option<ethabi::Uint>)"
        ++ " -> rt::RemoteTransaction")
      [.line "self.inner.send(data, wei_value)"]

def deploySection (names : StructNames) : Option DeployHelper → List Step
  | some d => .blank :: deployMethod names d
  | none => []

def contract (names : StructNames) (b : ContractBindings) : List Step :=
  docLine ("Typed handle to a deployed `" ++ b.contractName ++ "` contract.")
    :: .line "#[derive(Debug, Clone)]"
    :: block ("pub struct " ++ b.typeName ++ "<P>") [.line "inner: rt::Contract<P>,"]
    ++ .blank :: block ("impl<P: rt::Provider> " ++ b.typeName ++ "<P>")
      (docLine "Binds to the contract deployed at `address`."
        :: block "pub fn at(address: ethabi::Address, provider: P) -> Self"
          (block "Self" [.line "inner: rt::Contract::new(address, provider),"])
        ++ .blank :: block "pub fn address(&self) -> ethabi::Address"
          [.line "self.inner.address()"]
        ++ deploySection names b.deploy
        ++ b.functions.flatMap (functionMethods names)
        ++ b.events.flatMap (fun e => .blank :: filterMethod e)
        ++ if b.hasFallback || b.hasReceive then .blank :: rawTransaction else [])

def encoder (names : StructNames) (isPublic : Bool) (f : FunctionBinding) : List Step :=
  let visibility := if isPublic then "pub " else ""
  docLine ("Calldata for `" ++ f.signature ++ "`.")
    :: block (visibility ++ "fn " ++ f.encoder ++ "(" ++ commaList (arguments names f.inputs)
        ++ ") -> Vec<u8>")
      [.line ("rt::encode_call([" ++ commaList (byteLiterals f.selector.toList) ++ "], "
        ++ argumentTokens f.inputs ++ ")")]

end AbiBindings.Render
