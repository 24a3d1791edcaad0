namespace AbiBindings.Files

/-- What stands at a place. The names within a directory differ. -/
inductive Node where
  | directory (children : List (String × Node))
  | file (content : ByteArray)

/-- A place within a node, as the names that lead to it. -/
abbrev Place := List String

namespace Node

def empty : Node := .directory []

def child? (name : String) : Node → Option Node
  | .directory children => children.lookup name
  | .file _ => none

def at? (n : Node) : Place → Option Node
  | [] => some n
  | name :: place => (n.child? name).bind (·.at? place)

def withoutChild (name : String) : Node → Node
  | .directory children => .directory (children.filter fun c => c.1 ≠ name)
  | .file content => .file content

/-- A file has no children and stays as it is. -/
def withChild (n : Node) (name : String) (child : Node) : Node :=
  match n with
  | .directory children => .directory ((name, child) :: children.filter fun c => c.1 ≠ name)
  | .file content => .file content

/-- Puts something at a place. The directory around the place must exist. -/
def put (n : Node) (new : Node) : Place → Node
  | [] => new
  | [name] => n.withChild name new
  | name :: place =>
    match n.child? name with
    | some child => n.withChild name (child.put new place)
    | none => n

def remove (n : Node) : Place → Node
  | [] => n
  | [name] => n.withoutChild name
  | name :: place =>
    match n.child? name with
    | some child => n.withChild name (child.remove place)
    | none => n

mutual

def listing (above : String) : Node → List (String × Node)
  | .directory children => listings above children
  | .file _ => []

def listings (above : String) : List (String × Node) → List (String × Node)
  | [] => []
  | (name, child) :: children =>
    let path := if above = "" then name else above ++ "/" ++ name
    (path, child) :: listing path child ++ listings above children

end

end Node

end AbiBindings.Files
