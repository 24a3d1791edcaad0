import AbiBindings.Declaration
import AbiBindings.Json.Value
import AbiBindings.Text.Quoted

namespace AbiBindings.Interface

inductive Wanted where
  | text
  | truth
  | sequence
  | declaration
  | parameter
  deriving DecidableEq, Repr

def Wanted.phrase : Wanted → String
  | .text => "a string"
  | .truth => "a boolean"
  | .sequence => "a sequence"
  | .declaration => "struct RawDeclaration"
  | .parameter => "struct RawParameter"

inductive EntryFault where
  | wrongType (found : Json) (wanted : Wanted)
  /-- A positional record ends before its type. -/
  | tooShort (wanted : Wanted)
  | tooLong (length : Nat)
  | withoutType
  | unknownKind (kind : String)
  | withoutName (kind : Kind)
  | unknownMutability (mutability : String)
  | parameterWithoutType (position : Nat)

def describeFound : Json → String
  | .null => "null"
  | .bool b => "boolean `" ++ toString b ++ "`"
  | .int n => "integer `" ++ toString n ++ "`"
  | .float x => "floating point `" ++ Json.floatText x ++ "`"
  | .string s => "string " ++ Text.quoted s
  | .array _ => "sequence"
  | .object _ => "map"

def tooShortText : Wanted → String
  | .declaration => "invalid length 0, expected struct RawDeclaration with 8 elements"
  | wanted => "invalid length 1, expected " ++ wanted.phrase ++ " with 5 elements"

def EntryFault.message (index : Nat) : EntryFault → String
  | .wrongType found wanted =>
    entry ++ ": invalid type: " ++ describeFound found ++ ", expected " ++ wanted.phrase
  | .tooShort wanted => entry ++ ": " ++ tooShortText wanted
  | .tooLong length =>
    entry ++ ": invalid length " ++ toString length ++ ", expected fewer elements in array"
  | .withoutType => entry ++ " is missing the `type` field"
  | .unknownKind kind => entry ++ " has unknown declaration type `" ++ kind ++ "`"
  | .withoutName kind => entry ++ ": " ++ kind.text ++ " declaration without a name"
  | .unknownMutability mutability => entry ++ ": unknown stateMutability `" ++ mutability ++ "`"
  | .parameterWithoutType position =>
    entry ++ ": parameter " ++ toString position ++ " is missing the `type` field"
where
  entry : String := "entry " ++ toString index

inductive Fault where
  | invalidJson
  | notInterface
  | abiNotArray
  | entry (index : Nat) (fault : EntryFault)

def Fault.message : Fault → String
  | .invalidJson => "invalid JSON"
  | .notInterface =>
    "expected an array of declarations or an artifact object with an `abi` field"
  | .abiNotArray => "artifact field `abi` must be an array"
  | .entry index fault => fault.message index

end AbiBindings.Interface
