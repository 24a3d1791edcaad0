import AbiBindings.Interface.Record

namespace AbiBindings.Interface

mutual

/-- Every parameter has a type; a missing name is empty. -/
def RawParameter.toParameter (position : Nat) : RawParameter → Except EntryFault Parameter
  | ⟨name, type, internalType, components, indexed⟩ =>
    match type with
    | none => .error (.parameterWithoutType position)
    | some typeText =>
      (RawParameter.toParameters 0 components).map fun components =>
        { name := name.getD "", typeText, internalType, components, indexed }

/-- Positions count within one list. -/
def RawParameter.toParameters (position : Nat) :
    List RawParameter → Except EntryFault (List Parameter)
  | [] => .ok []
  | p :: ps =>
    match p.toParameter position with
    | .error fault => .error fault
    | .ok parameter => (RawParameter.toParameters (position + 1) ps).map (parameter :: ·)

end

namespace RawEntry

def kind (e : RawEntry) : Except EntryFault Kind :=
  match e.type with
  | none => .error .withoutType
  | some type =>
    match Kind.ofText? type with
    | none => .error (.unknownKind type)
    | some kind => .ok kind

/-- An empty name is no name. -/
def givenName (e : RawEntry) : Option String := e.name.filter (· ≠ "")

/-- The older flags count only where no mutability is written, and `payable` before `constant`. -/
def givenMutability (e : RawEntry) : Except EntryFault Mutability :=
  match e.mutability with
  | some text =>
    match Mutability.ofText? text with
    | none => .error (.unknownMutability text)
    | some mutability => .ok mutability
  | none =>
    if e.payable = some true then .ok .payable
    else if e.constant = some true then .ok .view
    else .ok .nonpayable

/-- What an entry must have is required in a fixed order: its type, its name, its mutability, its
inputs, its outputs. -/
def toDeclaration (e : RawEntry) : Except EntryFault Declaration :=
  match e.kind with
  | .error fault => .error fault
  | .ok kind =>
    if kind.isNamed ∧ e.givenName.isNone then .error (.withoutName kind)
    else match e.givenMutability with
    | .error fault => .error fault
    | .ok mutability =>
      match RawParameter.toParameters 0 e.inputs with
      | .error fault => .error fault
      | .ok inputs =>
        match RawParameter.toParameters 0 e.outputs with
        | .error fault => .error fault
        | .ok outputs =>
          .ok { kind, name := e.givenName, inputs, outputs, mutability, anonymous := e.anonymous }

end RawEntry

def declarationOf (entry : Json) : Except EntryFault Declaration :=
  match readEntry entry with
  | .error fault => .error fault
  | .ok raw => raw.toDeclaration

end AbiBindings.Interface
