import AbiBindings.Declaration
import AbiBindings.Resolved
import AbiBindings.Text.Blank
import AbiBindings.Text.Split

namespace AbiBindings

/-- A tuple shape that has not been named yet. -/
structure Shape where
  /-- The name some mention of it suggests. -/
  hint : Option String
  /-- The declaration that first mentions it. -/
  origin : String
  fields : List (String × Resolved)
  isDynamic : Bool
  deriving DecidableEq, Repr

/-- Tuples are the same shape when the names of their parts and the types on the wire agree. -/
def shapeKey (fields : List (String × Resolved)) : List (String × Wire) :=
  fields.map fun (name, type) => (name, type.wire)

/-- Shapes in the order of their first mention. A shape's id is its place. -/
abbrev ShapeTable := List Shape

/-- The id of a shape, which is added when it is new. A known shape without a hint takes the one
given. -/
def ShapeTable.intern (table : ShapeTable) (hint : Option String)
    (fields : List (String × Resolved)) (origin : String) : StructId × ShapeTable :=
  match table.findIdx? fun s => shapeKey s.fields = shapeKey fields with
  | some id => (id, table.modify id fun s => { s with hint := s.hint.or hint })
  | none => (table.length, table ++ [⟨hint, origin, fields, fields.any fun f => f.2.isDynamic⟩])

def lastSegment (cs : List Char) : List Char := (cs.reverse.takeWhile (· ≠ '.')).reverse

/-- The last segment of the struct that an internal type names, without array suffixes. -/
def internalStructName (internalType : String) : Option String :=
  match Text.afterPrefix ['s', 't', 'r', 'u', 'c', 't', ' '] internalType.toList with
  | none => none
  | some rest =>
    match lastSegment ((Text.trimChars rest).takeWhile (· ≠ '[')) with
    | [] => none
    | name => some (String.ofList name)

/-- What a parameter suggests as the name of its tuple: the struct its internal type names, else
its own name. -/
def Parameter.nameHint (p : Parameter) : Option String :=
  (p.internalType.bind internalStructName).or (if p.name = "" then none else some p.name)

end AbiBindings
