import AbiBindings.Json.Value
import AbiBindings.Text.Blank

namespace AbiBindings.Interface

def withoutMark : List Char → List Char
  | '0' :: 'x' :: cs => cs
  | '0' :: 'X' :: cs => cs
  | cs => cs

/-- Bytecode between blanks, always marked as hexadecimal. Nothing but the mark is no bytecode. -/
def normalizeBytecode (raw : String) : Option String :=
  match withoutMark (Text.trimChars raw.toList) with
  | [] => none
  | hex => some ("0x" ++ String.ofList hex)

def textMember? (key : String) : Json → Option String
  | .object members =>
    match Json.member? key members with
    | some (.string s) => some s
    | _ => none
  | _ => none

def memberOf? (key : String) : Json → Option Json
  | .object members => Json.member? key members
  | _ => none

def ownBytecode? (members : List (String × Json)) : Option String :=
  match Json.member? "bytecode" members with
  | some (.string s) => some s
  | some inner => textMember? "object" inner
  | none => none

def evmBytecode? (members : List (String × Json)) : Option String := do
  let evm ← Json.member? "evm" members
  let bytecode ← memberOf? "bytecode" evm
  textMember? "object" bytecode

/-- The bytecode of an artifact. The second place counts only where the first holds no text. -/
def artifactBytecode (members : List (String × Json)) : Option String :=
  ((ownBytecode? members).or (evmBytecode? members)).bind normalizeBytecode

end AbiBindings.Interface
