import AbiBindings.Representation
import AbiBindings.Resolved
import AbiBindings.TypeExpr.Basic

namespace AbiBindings

inductive ResolveFault where
  /-- No primitive is wide enough. -/
  | precisionLoss (typeText : String)
  /-- The parts of a tuple are not in its type. -/
  | tuple
  deriving DecidableEq, Repr

abbrev Memo := List (String × Resolved)

/-- Resolves a type without parts. Each spelling is worked out once; failures are not kept. -/
def Memo.resolve (mode : Representation) (memo : Memo) (t : TypeExpr) :
    Except ResolveFault Resolved × Memo :=
  match t.base with
  | .tuple => (.error .tuple, memo)
  | .elementary e =>
    match memo.lookup t.text with
    | some resolved => (.ok resolved, memo)
    | none =>
      match mode.target e with
      | none => (.error (.precisionLoss t.text), memo)
      | some target =>
        let resolved := Resolved.withDims ⟨.elementary e, target, e.isDynamic⟩ t.dims
        (.ok resolved, (t.text, resolved) :: memo)

end AbiBindings
