import AbiBindings.Page
import AbiBindings.Render.Expression
import AbiBindings.Text.Quoted

namespace AbiBindings.Render

def recordStruct (name : String) (fields : List (String × String)) : List Step :=
  .line "#[derive(Debug, Clone, PartialEq, Eq)]" ::
    if fields.isEmpty then [.line ("pub struct " ++ name ++ " \x7b\x7d")]
    else block ("pub struct " ++ name)
      (fields.map fun (field, type) => .line ("pub " ++ field ++ ": " ++ type ++ ","))

def selfLiteral (fields : List (String × String)) : List Step :=
  if fields.isEmpty then [.line "Ok(Self \x7b\x7d)"]
  else block "Ok(Self" (fields.map fun (field, value) => .line (field ++ ": " ++ value ++ ","))
    "\x7d)"

def itemList (opening : String) (items : List String) (closing : String) : List Step :=
  if items.isEmpty then [.line (opening ++ closing)]
  else [.line opening, .indent] ++ items.map (fun item => .line (item ++ ","))
    ++ [.dedent, .line closing]

def bytesPerLine : Nat := 8

/-- Rows of a fixed length; the last may be shorter. -/
def rows (items : List String) : List (List String) :=
  (List.range ((items.length + (bytesPerLine - 1)) / bytesPerLine)).map fun i =>
    (items.drop (bytesPerLine * i)).take bytesPerLine

/-- A constant of bytes, which takes several lines when it is longer than one row. -/
def bytesConstant (header : String) (bytes : List UInt8) : List Step :=
  let literals := byteLiterals bytes
  if literals.length ≤ bytesPerLine then [.line (header ++ "[" ++ commaList literals ++ "];")]
  else [.line (header ++ "["), .indent]
    ++ (rows literals).map (fun row => .line (commaList row ++ ","))
    ++ [.dedent, .line "];"]

def readFields (names : StructNames) (locals : List String) (fields : List (String × Resolved)) :
    List (String × String) :=
  (fields.zip locals).map fun ((field, type), token) =>
    (field, fromToken names type.wire type.target token 0 ++ "?")

def tupleStruct (names : StructNames) (d : StructDefinition) : List Step :=
  let locals := numberedNames "token" d.fields.length
  let unpack := "rt::unpack_tuple::<" ++ toString locals.length ++ ">(token)?;"
  recordStruct d.name (d.fields.map fun f => (f.name, typeName names f.type.target))
    ++ .blank :: block ("impl Tokenize for " ++ d.name)
      (block "fn param_type() -> ParamType"
          (itemList "ParamType::Tuple(vec![" (d.fields.map fun f => paramType names f.type.wire)
            "])")
        ++ .blank :: block "fn into_token(self) -> Token"
          (itemList "Token::Tuple(vec!["
            (d.fields.map fun f => intoToken f.type.wire f.type.target ("self." ++ f.name) 0) "])")
        ++ .blank :: block "fn from_token(token: Token) -> Result<Self, rt::Error>"
          (.line (bindLocals locals unpack)
            :: selfLiteral (readFields names locals (d.fields.map fun f => (f.name, f.type)))))

/-- Reads an event field from the log. A hash is the topic itself. -/
def eventFieldValue (names : StructNames) (f : EventField) : String :=
  match f.source with
  | .topic index =>
    if f.type.target = .hash then "log.topics[" ++ toString index ++ "]"
    else
      let token := "rt::decode_topic(&log.topics[" ++ toString index ++ "], &"
        ++ paramType names f.type.wire ++ ")?"
      fromToken names f.type.wire f.type.target token 0 ++ "?"
  | .data index =>
    fromToken names f.type.wire f.type.target ("data" ++ toString index) 0 ++ "?"

def decodeLog (names : StructNames) (e : EventBinding) : List Step :=
  let expected := if e.anonymous then "None" else "Some(&Self::TOPIC)"
  let data := e.dataFields
  let decode := "rt::decode_output::<" ++ toString data.length ++ ">("
    ++ paramTypes names (data.map (·.type.wire)) ++ ", &log.data)?;"
  .line ("rt::check_topics(log, " ++ toString e.topicCount ++ ", " ++ expected ++ ")?;")
    :: (if data.isEmpty then []
        else [.line (bindLocals (numberedNames "data" data.length) decode)])
    ++ selfLiteral (e.fields.map fun f => (f.name, eventFieldValue names f))

def eventRecord (names : StructNames) (e : EventBinding) : List Step :=
  let kind := if e.anonymous then "anonymous event" else "event"
  docLine ("Decoded `" ++ e.signature ++ "` " ++ kind ++ ".")
    :: recordStruct e.recordName (e.fields.map fun f => (f.name, typeName names f.type.target))
    ++ .blank :: block ("impl " ++ e.recordName)
      (.line ("pub const SIGNATURE: &'static str = " ++ Text.quoted e.signature ++ ";")
        :: (if e.anonymous then []
            else bytesConstant "pub const TOPIC: [u8; 32] = " e.topic.toList)
        ++ .blank :: block "pub fn decode_log(log: &ethabi::RawLog) -> Result<Self, rt::Error>"
          (decodeLog names e))

def errorRecord (names : StructNames) (e : ErrorBinding) : List Step :=
  let locals := numberedNames "data" e.fields.length
  let decode := "rt::decode_error::<" ++ toString locals.length ++ ">(Self::SELECTOR, "
    ++ paramTypes names (e.fields.map (·.type.wire)) ++ ", data)?;"
  docLine ("Decoded `" ++ e.signature ++ "` custom error.")
    :: recordStruct e.recordName (e.fields.map fun f => (f.name, typeName names f.type.target))
    ++ .blank :: block ("impl " ++ e.recordName)
      (.line ("pub const SIGNATURE: &'static str = " ++ Text.quoted e.signature ++ ";")
        :: bytesConstant "pub const SELECTOR: [u8; 4] = " e.selector.toList
        ++ .blank :: docLine "Decodes revert data carrying this error."
        :: block "pub fn decode(data: &[u8]) -> Result<Self, rt::Error>"
          (.line (bindLocals locals decode)
            :: selfLiteral (readFields names locals (e.fields.map fun f => (f.name, f.type)))))

end AbiBindings.Render
