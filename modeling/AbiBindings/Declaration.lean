namespace AbiBindings

inductive Kind where
  | function
  | constructor
  | event
  | fallback
  | receive
  | error
  deriving DecidableEq, Repr

namespace Kind

def text : Kind → String
  | .function => "function"
  | .constructor => "constructor"
  | .event => "event"
  | .fallback => "fallback"
  | .receive => "receive"
  | .error => "error"

def all : List Kind := [.function, .constructor, .event, .fallback, .receive, .error]

def ofText? (s : String) : Option Kind := all.find? fun k => k.text = s

/-- The other kinds occur at most once and go without a name. -/
def isNamed : Kind → Bool
  | .function | .event | .error => true
  | _ => false

end Kind

inductive Mutability where
  | pure
  | view
  | nonpayable
  | payable
  deriving DecidableEq, Repr

namespace Mutability

def text : Mutability → String
  | .pure => "pure"
  | .view => "view"
  | .nonpayable => "nonpayable"
  | .payable => "payable"

def all : List Mutability := [.pure, .view, .nonpayable, .payable]

def ofText? (s : String) : Option Mutability := all.find? fun m => m.text = s

/-- Read-only functions are called; every other function is sent as a transaction. -/
def isReadOnly : Mutability → Bool
  | .pure | .view => true
  | _ => false

def isPayable : Mutability → Bool
  | .payable => true
  | _ => false

end Mutability

structure Parameter where
  name : String
  typeText : String
  internalType : Option String := none
  components : List Parameter := []
  indexed : Bool := false
  deriving Repr

/-- Looks at the spelling alone. -/
def Parameter.isTuple (p : Parameter) : Bool :=
  ['t', 'u', 'p', 'l', 'e'].isPrefixOf p.typeText.toList

structure Declaration where
  kind : Kind
  name : Option String := none
  inputs : List Parameter := []
  outputs : List Parameter := []
  mutability : Mutability := .nonpayable
  anonymous : Bool := false
  deriving Repr

namespace Declaration

def nameOrKind (d : Declaration) : String :=
  match d.name with
  | some name => name
  | none => match d.kind with
    | .constructor => "constructor"
    | .fallback => "fallback"
    | .receive => "receive"
    | _ => "<unnamed>"

def describe (d : Declaration) : String :=
  match d.name with
  | some name => d.kind.text ++ " `" ++ name ++ "`"
  | none => d.kind.text

def addInput (d : Declaration) (p : Parameter) : Declaration :=
  { d with inputs := d.inputs ++ [p] }

def addOutput (d : Declaration) (p : Parameter) : Declaration :=
  { d with outputs := d.outputs ++ [p] }

end Declaration

end AbiBindings
