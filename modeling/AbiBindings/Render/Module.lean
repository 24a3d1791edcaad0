import AbiBindings.Render.Contract

namespace AbiBindings

def version : String := "0.1.0"

namespace Render

def header (b : ContractBindings) (runtime : String) : List Step :=
  [.line ("//! Bindings for the `" ++ b.contractName ++ "` contract."),
    .line "//!",
    .line ("//! Generated by solbind " ++ version ++ " into `" ++ b.modulePath.text
      ++ "`. Do not edit by hand."),
    .blank,
    .line "#![allow(clippy::all)]",
    .line "#![allow(dead_code, unused_imports, unused_mut)]",
    .blank,
    .line ("use " ++ runtime ++ " as rt;"),
    .line ("use " ++ runtime ++ "::ethabi::\x7bself, ParamType, Token\x7d;"),
    .line ("use " ++ runtime ++ "::Tokenize;")]

def bytecodeConstant : Option DeployHelper → List Step
  | some d =>
    [.blank, docLine "Creation bytecode of the contract.",
      .line ("pub const BYTECODE: &str = " ++ Text.quoted d.bytecode ++ ";")]
  | none => []

/-- The generated module: structs, events and errors before the handle, encoders after it. -/
def page (b : ContractBindings) (runtime : String) : List Step :=
  let names := structName b
  header b runtime
    ++ bytecodeConstant b.deploy
    ++ b.structs.flatMap (fun d => .blank :: tupleStruct names d)
    ++ b.events.flatMap (fun e => .blank :: eventRecord names e)
    ++ b.errors.flatMap (fun e => .blank :: errorRecord names e)
    ++ .blank :: contract names b
    ++ b.functions.flatMap (fun f => .blank :: encoder names b.publicEncoders f)

end Render

inductive IndentStyle where
  | spaces (count : Nat)
  | tabs
  deriving DecidableEq, Repr

def IndentStyle.unit : IndentStyle → String
  | .spaces count => String.ofList (List.replicate count ' ')
  | .tabs => "\t"

def defaultRuntime : String := "solbind_runtime"

structure RenderConfig where
  indentStyle : IndentStyle := .spaces 4
  /-- The crate that generated code imports. -/
  runtime : String := defaultRuntime
  deriving DecidableEq, Repr

def RenderConfig.pen (config : RenderConfig) : Pen := { unit := config.indentStyle.unit }

def ContractBindings.render (b : ContractBindings) (config : RenderConfig) : String :=
  (config.pen.write (Render.page b config.runtime)).1

end AbiBindings
