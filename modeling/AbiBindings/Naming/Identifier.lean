import AbiBindings.Keyword
import AbiBindings.Text.Words

namespace AbiBindings.Naming

/-- A leading digit gets an underscore before it, a keyword one after it. -/
def escape (name : String) : String :=
  let name := match name.toList with
    | c :: _ => if c.isDigit then "_" ++ name else name
    | [] => name
  if isKeyword name then name ++ "_" else name

/-- Identifier of a method, field or argument. A name without letters and numbers gives none. -/
def valueIdent (raw fallback : String) : String :=
  let snake := Text.snakeCase raw
  if snake = "" then fallback else escape snake

def isTypeLike (raw : String) : Bool :=
  match raw.toList with
  | c :: cs => c.isUpper && (c :: cs).all fun c => c.isAlphanum || c = '_'
  | [] => false

/-- Identifier of a type. A name that already looks like a type name stays as declared. -/
def typeIdent (raw fallback : String) : String :=
  let name := if isTypeLike raw then raw else Text.upperCamelCase raw
  if name = "" then fallback else escape name

end AbiBindings.Naming
