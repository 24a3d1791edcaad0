import AbiBindings.Failure
import AbiBindings.Keccak

namespace AbiBindings

/-- The type a parameter is declared with; a tuple must have parts. -/
def Parameter.typeExpr (origin : String) (p : Parameter) : Except Failure TypeExpr :=
  match TypeExpr.parse p.typeText with
  | .error e => .error (.invalidType p.typeText origin (.unreadable e))
  | .ok t =>
    if t.isTuple ∧ p.components.isEmpty then
      .error (.invalidType p.typeText origin .tupleWithoutComponents)
    else .ok t

mutual

/-- The type as signatures show it: a tuple is the list of its parts with its array suffix. -/
def Parameter.canonical (origin : String) : Parameter → Except Failure String
  | ⟨name, typeText, internalType, components, indexed⟩ =>
    match Parameter.typeExpr origin ⟨name, typeText, internalType, components, indexed⟩ with
    | .error e => .error e
    | .ok t =>
      if t.isTuple then
        (Parameter.canonicals origin components).map fun parts =>
          "(" ++ ",".intercalate parts ++ ")" ++ t.suffix
      else .ok t.text

def Parameter.canonicals (origin : String) : List Parameter → Except Failure (List String)
  | [] => .ok []
  | p :: ps =>
    match p.canonical origin with
    | .error e => .error e
    | .ok text => (Parameter.canonicals origin ps).map (text :: ·)

end

def signature (name : String) (params : List Parameter) (origin : String) :
    Except Failure String :=
  (Parameter.canonicals origin params).map fun types => name ++ "(" ++ ",".intercalate types ++ ")"

def selector (signature : String) : Keccak.Selector := (Keccak.hashText signature).take 4

def eventTopic (signature : String) : Keccak.Digest := Keccak.hashText signature

end AbiBindings
