import AbiBindings.Bindings.Basic
import AbiBindings.Text.Hex

namespace AbiBindings.Render

abbrev StructNames := StructId → String

/-- An id without a definition is named by its number. -/
def structName (b : ContractBindings) : StructNames := fun id =>
  match b.structDef? id with
  | some d => d.name
  | none => "Struct" ++ toString id

def typeName (names : StructNames) : Target → String
  | .bool => "bool"
  | .address => "ethabi::Address"
  | .native n => n.text
  | .wideUint => "ethabi::Uint"
  | .wideInt => "ethabi::Int"
  | .fixedBytes size => "[u8; " ++ toString size ++ "]"
  | .bytes => "Vec<u8>"
  | .string => "String"
  | .hash => "ethabi::Hash"
  | .vec element => "Vec<" ++ typeName names element ++ ">"
  | .array element length => "[" ++ typeName names element ++ "; " ++ toString length ++ "]"
  | .struct id => names id

def elementaryParamType : Elementary → String
  | .uint bits => "ParamType::Uint(" ++ toString bits ++ ")"
  | .int bits => "ParamType::Int(" ++ toString bits ++ ")"
  | .address => "ParamType::Address"
  | .bool => "ParamType::Bool"
  | .fixedBytes size => "ParamType::FixedBytes(" ++ toString size ++ ")"
  | .bytes => "ParamType::Bytes"
  | .string => "ParamType::String"

def paramType (names : StructNames) : Wire → String
  | .elementary e => elementaryParamType e
  | .array element none => "ParamType::Array(Box::new(" ++ paramType names element ++ "))"
  | .array element (some n) =>
    "ParamType::FixedArray(Box::new(" ++ paramType names element ++ "), " ++ toString n ++ ")"
  | .tuple id => names id ++ "::param_type()"

def commaList (items : List String) : String := ", ".intercalate items

def paramTypes (names : StructNames) (wires : List Wire) : String :=
  "&[" ++ commaList (wires.map (paramType names)) ++ "]"

/-- The variable for the elements of an array; arrays within it use other variables. -/
def itemName (depth : Nat) : String := "item" ++ toString depth

def arrayVariant : Option Nat → String
  | some _ => "FixedArray"
  | none => "Array"

def arrayToken (value item element : String) (length : Option Nat) : String :=
  "Token::" ++ arrayVariant length ++ "(" ++ value ++ ".into_iter().map(|" ++ item ++ "| "
    ++ element ++ ").collect())"

def intoToken : Wire → Target → String → Nat → String
  | _, .hash, value, _ => "Token::FixedBytes(" ++ value ++ ".as_bytes().to_vec())"
  | .elementary .bytes, _, value, _ => "Token::Bytes(" ++ value ++ ")"
  | .elementary (.fixedBytes _), _, value, _ => "Token::FixedBytes(" ++ value ++ ".to_vec())"
  | .elementary (.int _), .wideInt, value, _ => "Token::Int(" ++ value ++ ")"
  | .array wire length, .vec target, value, depth =>
    arrayToken value (itemName depth) (intoToken wire target (itemName depth) (depth + 1)) length
  | .array wire length, .array target _, value, depth =>
    arrayToken value (itemName depth) (intoToken wire target (itemName depth) (depth + 1)) length
  | _, _, value, _ => value ++ ".into_token()"

def fromToken (names : StructNames) : Wire → Target → String → Nat → String
  | _, .hash, value, _ => "<ethabi::Hash as Tokenize>::from_token(" ++ value ++ ")"
  | .elementary .bytes, _, value, _ => "rt::bytes_from_token(" ++ value ++ ")"
  | .elementary (.fixedBytes size), _, value, _ =>
    "rt::fixed_bytes_from_token::<" ++ toString size ++ ">(" ++ value ++ ")"
  | .elementary (.int _), .wideInt, value, _ => "rt::int_from_token(" ++ value ++ ")"
  | .array wire none, .vec target, value, depth =>
    "rt::array_from_token(" ++ value ++ ", |" ++ itemName depth ++ "| "
      ++ fromToken names wire target (itemName depth) (depth + 1) ++ ")"
  | .array wire (some n), .array target _, value, depth =>
    "rt::fixed_array_from_token::<_, " ++ toString n ++ ">(" ++ value ++ ", |" ++ itemName depth
      ++ "| " ++ fromToken names wire target (itemName depth) (depth + 1) ++ ")"
  | _, target, value, _ =>
    "<" ++ typeName names target ++ " as Tokenize>::from_token(" ++ value ++ ")"

def argument (names : StructNames) (p : BindingParam) : String :=
  p.name ++ ": " ++ typeName names p.type.target

def arguments (names : StructNames) (params : List BindingParam) : List String :=
  params.map (argument names)

def argumentTokens (params : List BindingParam) : String :=
  "&[" ++ commaList (params.map fun p => intoToken p.type.wire p.type.target p.name 0) ++ "]"

def byteLiterals (bytes : List UInt8) : List String := bytes.map fun b => "0x" ++ Text.hexByte b

def numberedNames (label : String) (count : Nat) : List String :=
  (List.range count).map fun i => label ++ toString i

/-- Binds the elements of an array that an expression yields, when there are any. -/
def bindLocals (locals : List String) (expression : String) : String :=
  if locals.isEmpty then expression else "let [" ++ commaList locals ++ "] = " ++ expression

end AbiBindings.Render
