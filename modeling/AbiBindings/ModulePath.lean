import AbiBindings.Keyword
import AbiBindings.Path
import AbiBindings.Text.Blank

namespace AbiBindings

structure ModulePath where
  segments : List String
  deriving DecidableEq, Repr

namespace ModulePath

inductive Fault where
  | empty
  | notName (segment : String)
  | keyword (segment : String)
  deriving DecidableEq, Repr

def Fault.message : Fault → String
  | .empty => "package must not be empty"
  | .notName segment => "`" ++ segment ++ "` is not a valid module name"
  | .keyword segment => "`" ++ segment ++ "` is a keyword and cannot name a module"

/-- Cuts at dots and at pairs of colons, from the left. -/
def splitSegments : List Char → List (List Char)
  | [] => [[]]
  | ':' :: ':' :: cs => [] :: splitSegments cs
  | c :: cs =>
    if c = '.' then [] :: splitSegments cs
    else match splitSegments cs with
      | [] => [[c]]
      | segment :: segments => (c :: segment) :: segments

def isStart (c : Char) : Bool := c.isAlpha || c = '_'

def isContinue (c : Char) : Bool := c.isAlphanum || c = '_'

/-- An ASCII identifier other than the lone underscore. -/
def isName : List Char → Bool
  | [] => false
  | c :: cs => isStart c && cs.all isContinue && c :: cs ≠ ['_']

def checkSegment (segment : String) : Except Fault Unit :=
  if !isName segment.toList then .error (.notName segment)
  else if isKeyword segment then .error (.keyword segment)
  else .ok ()

/-- The first segment that cannot name a module decides. -/
def checkSegments : List String → Except Fault Unit
  | [] => .ok ()
  | segment :: segments =>
    match checkSegment segment with
    | .error fault => .error fault
    | .ok () => checkSegments segments

def ofTrimmed (package : String) : Except Fault ModulePath :=
  if package = "" then .error .empty
  else
    let segments := (splitSegments package.toList).map String.ofList
    (checkSegments segments).map fun () => ⟨segments⟩

def text (m : ModulePath) : String := "::".intercalate m.segments

def directory (m : ModulePath) (root : String) : String := m.segments.foldl Path.join root

end ModulePath

end AbiBindings
