import AbiBindings.Files.Fault
import AbiBindings.Files.Node
import AbiBindings.Path

namespace AbiBindings.Files

/-- Everything from the root on, and the directory that relative paths start from. -/
structure Tree where
  root : Node := .empty
  start : Place := []

namespace Tree

def node? (t : Tree) (place : Place) : Option Node := t.root.at? place

def put (t : Tree) (place : Place) (node : Node) : Tree :=
  { t with root := t.root.put node place }

def erase (t : Tree) (place : Place) : Tree := { t with root := t.root.remove place }

def maxName : Nat := 255

/-- One step from a place, which must be a directory. Only its last place may be missing. -/
def step (t : Tree) (here : Place) (name : String) : Except Fault Place :=
  match t.node? here with
  | none => .error .notFound
  | some (.file _) => .error .notDirectory
  | some (.directory _) =>
    if name = "." then .ok here
    else if name = ".." then .ok here.dropLast
    else if maxName < name.utf8ByteSize then .error .nameTooLong
    else .ok (here ++ [name])

def walk (t : Tree) (here : Place) : List String → Except Fault Place
  | [] => .ok here
  | name :: names =>
    match t.step here name with
    | .error fault => .error fault
    | .ok place => t.walk place names

def origin (t : Tree) (path : String) : Place := if Path.isAbsolute path then [] else t.start

def maxPath : Nat := 4095

/-- Refuses a text that cannot be a path, whatever the tree. -/
def checkPath (path : String) (onNul : Fault) : Except Fault Unit :=
  if path.toList.contains '\x00' then .error onNul
  else if maxPath < path.utf8ByteSize then .error .nameTooLong
  else .ok ()

def find (t : Tree) (path : String) : Except Fault Place :=
  match checkPath path .nulByte with
  | .error fault => .error fault
  | .ok () => t.walk (t.origin path) (Path.steps path)

def read (t : Tree) (path : String) : Except Fault ByteArray :=
  match t.find path with
  | .error fault => .error fault
  | .ok place =>
    match t.node? place with
    | none => .error .notFound
    | some (.directory _) => .error .isDirectory
    | some (.file content) => .ok content

section Directories

variable (refused : Place → Option Fault)

/-- Makes the directory that steps lead to unless it is there. Everything before the last step must
be there, and making it must not be refused. -/
def ensureDirectory (t : Tree) (here : Place) (steps : List String) : Except Fault Place × Tree :=
  match t.walk here steps with
  | .error fault => (.error fault, t)
  | .ok place =>
    match t.node? place with
    | none =>
      match refused place with
      | some fault => (.error fault, t)
      | none => (.ok place, t.put place .empty)
    | some (.directory _) => (.ok place, t)
    | some (.file _) => (.error .alreadyThere, t)

/-- Those made before a failure stay. -/
def makeFrom (t : Tree) (here : Place) : List String → Except Fault Place × Tree
  | [] => (.ok here, t)
  | name :: names =>
    match t.ensureDirectory refused here [name] with
    | (.error fault, t) => (.error fault, t)
    | (.ok place, t) => t.makeFrom place names

/-- Makes the directory a path leads to, and those above it only if one of them is missing. -/
def makePlace (t : Tree) (here : Place) (path : String) : Except Fault Place × Tree :=
  match t.ensureDirectory refused here (Path.names path) with
  | (.error .notFound, t) =>
    match t.makeFrom refused here (Path.moves path).dropLast with
    | (.error fault, t) => (.error fault, t)
    | (.ok _, t) => t.ensureDirectory refused here (Path.names path)
  | settled => settled

end Directories

def makeDirectories (t : Tree) (path : String) (refused : Place → Option Fault := fun _ => none) :
    Except Fault Unit × Tree :=
  match checkPath path .nulByte with
  | .error fault => (.error fault, t)
  | .ok () =>
    let (made, t) := t.makePlace refused (t.origin path) path
    (made.map fun _ => (), t)

/-- Where something stands or may stand in a directory that exists. -/
def target (t : Tree) (path : String) (onNul : Fault) : Except Fault Place :=
  match checkPath path onNul with
  | .error fault => .error fault
  | .ok () =>
    match t.walk (t.origin path) (Path.steps path).dropLast with
    | .error fault => .error fault
    | .ok here =>
      match (Path.steps path).getLast? with
      | none => .error .isDirectory
      | some name => t.step here name

def write (t : Tree) (path : String) (content : ByteArray) : Except Fault Unit × Tree :=
  match t.target path .nulByte with
  | .error fault => (.error fault, t)
  | .ok place =>
    match t.node? place with
    | some (.directory _) => (.error .isDirectory, t)
    | _ => (.ok (), t.put place (.file content))

def removeFile (t : Tree) (path : String) : Except Fault Unit × Tree :=
  match t.find path with
  | .error fault => (.error fault, t)
  | .ok place =>
    match t.node? place with
    | some (.file _) => (.ok (), t.erase place)
    | some (.directory _) => (.error .isDirectory, t)
    | none => (.error .notFound, t)

def below (t : Tree) (place : Place) : List (String × Node) :=
  match t.node? place with
  | some node => node.listing ""
  | none => []

end Tree

end AbiBindings.Files
