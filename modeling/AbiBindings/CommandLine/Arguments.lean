import AbiBindings.Compilation
import AbiBindings.Render.Module

namespace AbiBindings.CommandLine

inductive Setting where
  | abi
  | bin
  | outputDir
  | package
  | contractName
  | runtimeCrate
  deriving DecidableEq, Repr

namespace Setting

def all : List Setting := [.abi, .bin, .outputDir, .package, .contractName, .runtimeCrate]

def long : Setting → String
  | .abi => "abi"
  | .bin => "bin"
  | .outputDir => "output-dir"
  | .package => "package"
  | .contractName => "contract-name"
  | .runtimeCrate => "runtime-crate"

def short : Setting → Option Char
  | .abi => some 'a'
  | .bin => some 'b'
  | .outputDir => some 'o'
  | .package => some 'p'
  | .contractName => some 'c'
  | .runtimeCrate => none

/-- A path may not be empty; the other values may. -/
def isPath : Setting → Bool
  | .abi | .bin | .outputDir => true
  | _ => false

end Setting

inductive Flag where
  | native
  | precise
  | callAndSend
  | abiFuncs
  | verbose
  deriving DecidableEq, Repr

namespace Flag

def all : List Flag := [.native, .precise, .callAndSend, .abiFuncs, .verbose]

def long : Flag → String
  | .native => "native"
  | .precise => "precise"
  | .callAndSend => "call-and-send"
  | .abiFuncs => "abi-funcs"
  | .verbose => "verbose"

def short : Flag → Option Char
  | .verbose => some 'v'
  | _ => none

end Flag

inductive Stop where
  | usage
  | version
  | help
  deriving DecidableEq, Repr

structure Given where
  settings : List (Setting × String)
  flags : List Flag
  deriving DecidableEq, Repr

namespace Given

def value? (g : Given) (s : Setting) : Option String := g.settings.lookup s

/-- Every option is given at most once. -/
def addSetting (g : Given) (s : Setting) (value : String) : Except Stop Given :=
  if (g.value? s).isSome ∨ (s.isPath ∧ value = "") then .error .usage
  else .ok { g with settings := (s, value) :: g.settings }

def addFlag (g : Given) (f : Flag) : Except Stop Given :=
  if f ∈ g.flags then .error .usage else .ok { g with flags := f :: g.flags }

end Given

def attached : List Char → Option (List Char)
  | [] => none
  | c :: cs => if c = '=' then some cs else attached cs

/-- An option by its long name, without the dashes. A setting without an attached value waits for
the next argument. -/
def readLong (g : Given) (cs : List Char) : Except Stop (Given × Option Setting) :=
  let name := String.ofList (cs.takeWhile (· ≠ '='))
  let value := attached cs
  match Setting.all.find? fun s => s.long = name with
  | some s =>
    match value with
    | some value => (g.addSetting s (String.ofList value)).map (·, none)
    | none => .ok (g, some s)
  | none =>
    if value.isSome then .error .usage
    else match Flag.all.find? fun f => f.long = name with
    | some f => (g.addFlag f).map (·, none)
    | none => .error (if name = "help" then .help else .usage)

/-- The value that directly follows a letter; an equals sign between them is left out. -/
def afterLetter : List Char → List Char
  | '=' :: cs => cs
  | cs => cs

/-- Options by their letters. What follows the letter of a setting is its value. -/
def readLetters (g : Given) : List Char → Except Stop (Given × Option Setting)
  | [] => .ok (g, none)
  | c :: cs =>
    match Setting.all.find? fun s => s.short = some c with
    | some s =>
      if cs = [] then .ok (g, some s)
      else (g.addSetting s (String.ofList (afterLetter cs))).map (·, none)
    | none =>
      match Flag.all.find? fun f => f.short = some c with
      | some f =>
        match g.addFlag f with
        | .error stop => .error stop
        | .ok g => readLetters g cs
      | none => .error (if c = 'h' then .help else .usage)

/-- A value that stands alone may begin with a dash only if it is one. -/
def isValue (argument : String) : Bool :=
  argument.toList.head? ≠ some '-' || argument = "-"

def readOption (g : Given) (argument : String) : Except Stop (Given × Option Setting) :=
  match argument.toList with
  | '-' :: '-' :: cs => readLong g cs
  | '-' :: c :: cs => readLetters g (c :: cs)
  | _ => .error .usage

/-- Reads options to the end. Two dashes end them, and nothing may follow. -/
def readOptions (g : Given) : Option Setting → List String → Except Stop Given
  | none, [] => .ok g
  | some _, [] => .error .usage
  | some s, value :: rest =>
    if isValue value then
      match g.addSetting s value with
      | .error stop => .error stop
      | .ok g => readOptions g none rest
    else .error .usage
  | none, argument :: rest =>
    if argument = "--" then if rest = [] then .ok g else .error .usage
    else match readOption g argument with
    | .error stop => .error stop
    | .ok (g, waiting) => readOptions g waiting rest

structure Arguments where
  abi : String
  bin : Option String
  outputDir : String
  package : String
  contractName : Option String
  options : Options
  config : RenderConfig
  verbose : Bool

/-- The interface, the output directory and the package are required, and only one representation
may be chosen. -/
def Given.toArguments (g : Given) : Except Stop Arguments :=
  match g.value? .abi, g.value? .outputDir, g.value? .package with
  | some abi, some outputDir, some package =>
    if .native ∈ g.flags ∧ .precise ∈ g.flags then .error .usage
    else .ok
      { abi, outputDir, package
        bin := g.value? .bin
        contractName := g.value? .contractName
        options :=
          { representation := if .native ∈ g.flags then .native else .precise
            callAndSend := .callAndSend ∈ g.flags
            abiFuncs := .abiFuncs ∈ g.flags }
        config := { runtime := (g.value? .runtimeCrate).getD defaultRuntime }
        verbose := .verbose ∈ g.flags }
  | _, _, _ => .error .usage

def readGenerate (arguments : List String) : Except Stop Arguments :=
  match readOptions ⟨[], []⟩ none arguments with
  | .error stop => .error stop
  | .ok g => g.toArguments

def isHelp (argument : String) : Bool := argument = "--help" || argument.startsWith "-h"

def languageTopics : List (List String) := [[], ["generate"], ["help"]]

/-- The commands that one is told about. The language groups the same commands once more. -/
def topics : List (List String) := languageTopics ++ languageTopics.map ("solidity" :: ·)

/-- Asking for help on anything but a command is a mistake. -/
def helpOn (topics : List (List String)) (words : List String) : Stop :=
  if words ∈ topics then .help else .usage

/-- Reads the whole command line. The command stands first, alone or after the language. -/
def readArguments : List String → Except Stop Arguments
  | "generate" :: rest => readGenerate rest
  | "help" :: words => .error (helpOn topics words)
  | "solidity" :: "generate" :: rest => readGenerate rest
  | "solidity" :: "help" :: words => .error (helpOn languageTopics words)
  | "solidity" :: argument :: _ => .error (if isHelp argument then .help else .usage)
  | argument :: _ =>
    if argument = "--version" ∨ argument.startsWith "-V" then .error .version
    else .error (if isHelp argument then .help else .usage)
  | [] => .error .usage

end AbiBindings.CommandLine
