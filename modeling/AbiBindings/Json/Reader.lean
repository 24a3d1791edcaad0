import AbiBindings.Json.Token

namespace AbiBindings.Json

/-- A container whose end has not been read. Items are kept last first. -/
inductive Frame where
  | items (read : List Json)
  | members (read : List (String × Json))
  | member (read : List (String × Json)) (key : String)

inductive Stage where
  | value
  | firstItem
  | firstKey
  | key
  | colon
  | after (value : Json)

def maxDepth : Nat := 127

/-- Reads one token. A container is opened only within the depth. -/
def advance (stage : Stage) (stack : List Frame) (token : Token) : Option (Stage × List Frame) :=
  let start : Option (Stage × List Frame) :=
    match token with
    | .plain value => some (.after value, stack)
    | .text s => some (.after (.string s), stack)
    | .openArray => if stack.length < maxDepth then some (.firstItem, .items [] :: stack) else none
    | .openObject => if stack.length < maxDepth then some (.firstKey, .members [] :: stack) else none
    | _ => none
  let name : Option (Stage × List Frame) :=
    match token, stack with
    | .text key, .members read :: rest => some (.colon, .member read key :: rest)
    | _, _ => none
  match stage with
  | .value => start
  | .firstItem =>
    match token, stack with
    | .closeArray, .items _ :: rest => some (.after (.array []), rest)
    | _, _ => start
  | .firstKey =>
    match token, stack with
    | .closeObject, .members _ :: rest => some (.after (.object []), rest)
    | _, _ => name
  | .key => name
  | .colon =>
    match token with
    | .colon => some (.value, stack)
    | _ => none
  | .after value =>
    match token, stack with
    | .comma, .items read :: rest => some (.value, .items (value :: read) :: rest)
    | .closeArray, .items read :: rest => some (.after (.array (value :: read).reverse), rest)
    | .comma, .member read key :: rest => some (.key, .members (setMember key value read) :: rest)
    | .closeObject, .member read key :: rest =>
      some (.after (.object (setMember key value read)), rest)
    | _, _ => none

def assemble (stage : Stage) (stack : List Frame) : List Token → Option Json
  | [] =>
    match stage, stack with
    | .after value, [] => some value
    | _, _ => none
  | token :: tokens =>
    match advance stage stack token with
    | some (stage, stack) => assemble stage stack tokens
    | none => none

def parse? (s : String) : Option Json :=
  match lex .between s.toList with
  | some tokens => assemble .value [] tokens
  | none => none

end AbiBindings.Json
