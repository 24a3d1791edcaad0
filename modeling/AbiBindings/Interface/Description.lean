import AbiBindings.Interface.Bytecode
import AbiBindings.Interface.Entry
import AbiBindings.Json.Reader

namespace AbiBindings

structure Interface where
  declarations : List Declaration
  bytecode : Option String

namespace Interface

/-- Entries are numbered from the one given. The first that cannot be read decides. -/
def declarationsFrom (index : Nat) : List Json → Except Fault (List Declaration)
  | [] => .ok []
  | entry :: entries =>
    match declarationOf entry with
    | .error fault => .error (.entry index fault)
    | .ok declaration => (declarationsFrom (index + 1) entries).map (declaration :: ·)

/-- A bare array of declarations, or an artifact with such an array under `abi`. -/
def ofJson : Json → Except Fault Interface
  | .array entries => (declarationsFrom 0 entries).map fun ds => ⟨ds, none⟩
  | .object members =>
    match Json.member? "abi" members with
    | some (.array entries) =>
      (declarationsFrom 0 entries).map fun ds => ⟨ds, artifactBytecode members⟩
    | some _ => .error .abiNotArray
    | none => .error .notInterface
  | _ => .error .notInterface

def parse (text : String) : Except Fault Interface :=
  match Json.parse? text with
  | none => .error .invalidJson
  | some json => ofJson json

end Interface

end AbiBindings
