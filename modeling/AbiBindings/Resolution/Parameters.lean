import AbiBindings.Resolution.Memo
import AbiBindings.Shape.Table
import AbiBindings.Signature

namespace AbiBindings

structure Gathered where
  memo : Memo
  shapes : ShapeTable
  /-- Integers that the mode cannot hold, each with its declaration, and each once. -/
  losses : List String

def Gathered.empty : Gathered := ⟨[], [], []⟩

/-- Stands for a type that was rejected. No bindings come about where it is used. -/
def placeholder (dims : List (Option Nat)) : Resolved :=
  Resolved.withDims ⟨.elementary (.uint 256), .wideUint, false⟩ dims

def Gathered.addLoss (g : Gathered) (origin typeText : String) : Gathered :=
  let loss := origin ++ " (`" ++ typeText ++ "`)"
  if loss ∈ g.losses then g else { g with losses := g.losses ++ [loss] }

def Gathered.resolvePlain (mode : Representation) (origin : String) (g : Gathered)
    (typeText : String) (t : TypeExpr) : Except Failure (Resolved × Gathered) :=
  match g.memo.resolve mode t with
  | (.ok resolved, memo) => .ok (resolved, { g with memo })
  | (.error (.precisionLoss text), memo) =>
    .ok (placeholder t.dims, { g with memo }.addLoss origin text)
  | (.error .tuple, _) => .error (.invalidType typeText origin .strayTuple)

mutual

/-- Resolves a parameter of one declaration. An inner tuple is interned before the tuple that
contains it. -/
def resolveParameter (mode : Representation) (origin : String) (g : Gathered) :
    Parameter → Except Failure (Resolved × Gathered)
  | ⟨name, typeText, internalType, components, indexed⟩ =>
    let p : Parameter := ⟨name, typeText, internalType, components, indexed⟩
    match p.typeExpr origin with
    | .error e => .error e
    | .ok t =>
      if !t.isTuple then g.resolvePlain mode origin typeText t
      else
        match resolveParameters mode origin g components with
        | .error e => .error e
        | .ok (types, g) =>
          let fields := (components.map (·.name)).zip types
          let (id, shapes) := g.shapes.intern p.nameHint fields origin
          let element : Resolved := ⟨.tuple id, .struct id, fields.any fun f => f.2.isDynamic⟩
          .ok (element.withDims t.dims, { g with shapes })

def resolveParameters (mode : Representation) (origin : String) (g : Gathered) :
    List Parameter → Except Failure (List Resolved × Gathered)
  | [] => .ok ([], g)
  | p :: ps =>
    match resolveParameter mode origin g p with
    | .error e => .error e
    | .ok (type, g) =>
      match resolveParameters mode origin g ps with
      | .error e => .error e
      | .ok (types, g) => .ok (type :: types, g)

end

end AbiBindings
