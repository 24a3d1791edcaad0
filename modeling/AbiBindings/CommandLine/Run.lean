import AbiBindings.CommandLine.Arguments
import AbiBindings.Files.Host

namespace AbiBindings.CommandLine

/-- What a run leaves behind: its exit code and what it wrote to both streams. -/
structure Report where
  exit : UInt8
  out : String
  err : String
  deriving DecidableEq, Repr

/-- A message with what caused it, if something did. -/
structure Trouble where
  message : String
  cause : Option String := none
  deriving DecidableEq, Repr

def Trouble.text (t : Trouble) : String :=
  "Error: " ++ t.message ++ "\n"
    ++ (t.cause.map fun cause => "\nCaused by:\n    " ++ cause ++ "\n").getD ""

/-- Only what the file system refused has a cause. -/
def Trouble.ofFailure (e : Failure) : Trouble where
  message := e.message
  cause := match e with
    | .emission _ fault => some fault.message
    | _ => none

namespace Arguments

def readsInput (a : Arguments) : Bool := Path.components a.abi = ["-"]

def name (a : Arguments) : Except Trouble String :=
  match a.contractName with
  | some name => .ok name
  | none =>
    if a.readsInput then
      .error ⟨"--contract-name is required when the interface is read from standard input", none⟩
    else match Path.fileName? a.abi with
    | some name => .ok (Path.stem name)
    | none => .error ⟨"Cannot derive a contract name from " ++ a.abi, none⟩

end Arguments

section

variable {m : Type → Type} [Monad m]

def decodeText (trouble : String) (content : ByteArray) : Except Trouble String :=
  match String.fromUTF8? content with
  | some text => .ok text
  | none => .error ⟨trouble, some Files.Fault.notText.message⟩

def readText (host : Files.Host m) (path : String) : m (Except Trouble String) := do
  let trouble := "Failed to read " ++ path
  match ← host.readFile path with
  | .ok content => return decodeText trouble content
  | .error fault => return .error ⟨trouble, some fault.message⟩

def readInterface (host : Files.Host m) (a : Arguments) : m (Except Trouble String) := do
  if a.readsInput then
    return decodeText "Failed to read the interface from standard input" (← host.readInput)
  else readText host a.abi

def readBytecode (host : Files.Host m) (a : Arguments) : m (Except Trouble (Option String)) := do
  match a.bin with
  | none => return .ok none
  | some path => return (← readText host path).map some

/-- The name is settled before anything is read, and the interface is read before the bytecode. -/
def readSource (host : Files.Host m) (a : Arguments) : m (Except Trouble Source) := do
  match a.name with
  | .error trouble => return .error trouble
  | .ok name =>
    match ← readInterface host a with
    | .error trouble => return .error trouble
    | .ok interface =>
      match ← readBytecode host a with
      | .error trouble => return .error trouble
      | .ok bytecode => return .ok { name, interface, package := a.package, bytecode }

def warning (d : Diagnostic) : String := "warning: " ++ d.message ++ "\n"

def generate (host : Files.Host m) (a : Arguments) : m Report := do
  match ← readSource host a with
  | .error trouble => return ⟨1, "", trouble.text⟩
  | .ok source =>
    let outcome ← generateBindings host a.options a.config source a.outputDir
    let warnings := String.join (outcome.diagnostics.map warning)
    match outcome.result with
    | .ok path => return ⟨0, "Generated " ++ path ++ "\n", warnings⟩
    | .error e => return ⟨1, "", warnings ++ (Trouble.ofFailure e).text⟩

def usage : String :=
  "Usage: solbind [solidity] generate --abi <ABI> --output-dir <OUTPUT_DIR> --package <PACKAGE>\n"

def run (host : Files.Host m) (arguments : List String) : m Report :=
  match readArguments arguments with
  | .ok a => generate host a
  | .error .version => pure ⟨0, "solbind " ++ version ++ "\n", ""⟩
  | .error .help => pure ⟨0, usage, ""⟩
  | .error .usage => pure ⟨2, "", usage⟩

end

end AbiBindings.CommandLine
