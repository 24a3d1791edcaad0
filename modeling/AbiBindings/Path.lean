import AbiBindings.Text.Split

namespace AbiBindings.Path

/-- Adds a part to a path. An absolute part replaces the path, and a separator is written only
after text that does not end in one. -/
def join (base part : String) : String :=
  if part.startsWith '/' then part
  else if base = "" ∨ base.endsWith '/' then base ++ part
  else base ++ "/" ++ part

def isAbsolute (path : String) : Bool := path.startsWith '/'

def names (path : String) : List String :=
  ((Text.splitWhere (· == '/') path.toList).map String.ofList).filter (· ≠ "")

/-- What a path is made of: the root if it is absolute, then names. A dot that does not begin a
relative path says nothing. -/
def components (path : String) : List String :=
  if isAbsolute path then "/" :: (names path).filter (· ≠ ".")
  else match names path with
    | "." :: rest => "." :: rest.filter (· ≠ ".")
    | rest => rest.filter (· ≠ ".")

def fileName? (path : String) : Option String :=
  match (components path).getLast? with
  | some name => if name ∈ ["/", ".", ".."] then none else some name
  | none => none

/-- A name without its last extension. A dot at its beginning starts no extension. -/
def stem (name : String) : String :=
  match (name.toList.reverse.dropWhile (· ≠ '.')).drop 1 with
  | [] => name
  | before => String.ofList before.reverse

/-- The steps that lead along a path. A separator at its end asks for a directory, as a dot does. -/
def steps (path : String) : List String :=
  if path.endsWith '/' then names path ++ ["."] else names path

def moves (path : String) : List String := (names path).filter (· ≠ ".")

/-- Drops separators and dots that say nothing from the end of a path, which is given last
character first. -/
def dropIdle : List Char → List Char
  | '/' :: cs => dropIdle cs
  | '.' :: '/' :: cs => dropIdle cs
  | cs => cs

def parent (path : String) : String :=
  match dropIdle ((dropIdle path.toList.reverse).dropWhile (· ≠ '/')) with
  | [] => if isAbsolute path then "/" else ""
  | cs => String.ofList cs.reverse

end AbiBindings.Path
