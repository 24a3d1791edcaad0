import AbiBindings.Interface.Fault

namespace AbiBindings.Interface

/-- A parameter as read, before anything is required of it. -/
structure RawParameter where
  name : Option String := none
  type : Option String := none
  internalType : Option String := none
  components : List RawParameter := []
  indexed : Bool := false

/-- An entry as read, before anything is required of it. -/
structure RawEntry where
  type : Option String := none
  name : Option String := none
  inputs : List RawParameter := []
  outputs : List RawParameter := []
  mutability : Option String := none
  constant : Option Bool := none
  payable : Option Bool := none
  anonymous : Bool := false

def readOptionalText : Json → Except EntryFault (Option String)
  | .null => .ok none
  | .string s => .ok (some s)
  | found => .error (.wrongType found .text)

def readOptionalTruth : Json → Except EntryFault (Option Bool)
  | .null => .ok none
  | .bool b => .ok (some b)
  | found => .error (.wrongType found .truth)

def readTruth : Json → Except EntryFault Bool
  | .bool b => .ok b
  | found => .error (.wrongType found .truth)

mutual

def readParameter : Json → Except EntryFault RawParameter
  | .object members => readParameterMembers {} members
  | .array items => readParameterItems items.length 0 {} items
  | found => .error (.wrongType found .parameter)

def readParameters : Json → Except EntryFault (List RawParameter)
  | .array items => readEachParameter items
  | found => .error (.wrongType found .sequence)

def readEachParameter : List Json → Except EntryFault (List RawParameter)
  | [] => .ok []
  | item :: items =>
    match readParameter item with
    | .error fault => .error fault
    | .ok parameter => (readEachParameter items).map (parameter :: ·)

/-- Members are read in the order of their keys; a member of another name is passed over. -/
def readParameterMembers (p : RawParameter) : List (String × Json) → Except EntryFault RawParameter
  | [] => .ok p
  | (key, value) :: members =>
    let read :=
      if key = "name" then (readOptionalText value).map fun name => { p with name }
      else if key = "type" then (readOptionalText value).map fun type => { p with type }
      else if key = "internalType" then
        (readOptionalText value).map fun internalType => { p with internalType }
      else if key = "components" then
        (readParameters value).map fun components => { p with components }
      else if key = "indexed" then (readTruth value).map fun indexed => { p with indexed }
      else .ok p
    match read with
    | .error fault => .error fault
    | .ok p => readParameterMembers p members

/-- The values after the type may be left out. -/
def readParameterItems (length position : Nat) (p : RawParameter) :
    List Json → Except EntryFault RawParameter
  | [] => if position < 2 then .error (.tooShort .parameter) else .ok p
  | item :: items =>
    let read := match position with
      | 0 => (readOptionalText item).map fun name => { p with name }
      | 1 => (readOptionalText item).map fun type => { p with type }
      | 2 => (readOptionalText item).map fun internalType => { p with internalType }
      | 3 => (readParameters item).map fun components => { p with components }
      | 4 => (readTruth item).map fun indexed => { p with indexed }
      | _ => .error (.tooLong length)
    match read with
    | .error fault => .error fault
    | .ok p => readParameterItems length (position + 1) p items

end

def readEntryMember (e : RawEntry) (key : String) (value : Json) : Except EntryFault RawEntry :=
  if key = "type" then (readOptionalText value).map fun type => { e with type }
  else if key = "name" then (readOptionalText value).map fun name => { e with name }
  else if key = "inputs" then (readParameters value).map fun inputs => { e with inputs }
  else if key = "outputs" then (readParameters value).map fun outputs => { e with outputs }
  else if key = "stateMutability" then
    (readOptionalText value).map fun mutability => { e with mutability }
  else if key = "constant" then (readOptionalTruth value).map fun constant => { e with constant }
  else if key = "payable" then (readOptionalTruth value).map fun payable => { e with payable }
  else if key = "anonymous" then (readTruth value).map fun anonymous => { e with anonymous }
  else .ok e

def readEntryMembers (e : RawEntry) : List (String × Json) → Except EntryFault RawEntry
  | [] => .ok e
  | (key, value) :: members =>
    match readEntryMember e key value with
    | .error fault => .error fault
    | .ok e => readEntryMembers e members

def entryKeys : List String :=
  ["type", "name", "inputs", "outputs", "stateMutability", "constant", "payable", "anonymous"]

def readEntryItems (length : Nat) (e : RawEntry) :
    List String → List Json → Except EntryFault RawEntry
  | _, [] => .ok e
  | [], _ :: _ => .error (.tooLong length)
  | key :: keys, item :: items =>
    match readEntryMember e key item with
    | .error fault => .error fault
    | .ok e => readEntryItems length e keys items

def readEntry : Json → Except EntryFault RawEntry
  | .object members => readEntryMembers {} members
  | .array [] => .error (.tooShort .declaration)
  | .array items => readEntryItems items.length {} entryKeys items
  | found => .error (.wrongType found .declaration)

end AbiBindings.Interface
