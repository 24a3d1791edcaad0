namespace AbiBindings

inductive Step where
  | indent
  | dedent
  | blank
  | line (text : String)
  /-- A line that stands one level deeper than the lines around it. -/
  | nestedLine (text : String)
  deriving DecidableEq, Repr

/-- The level of indentation and what one level is made of. -/
structure Pen where
  level : Nat := 0
  unit : String := "    "
  deriving DecidableEq, Repr

namespace Pen

def indentation (pen : Pen) : String := String.join (List.replicate pen.level pen.unit)

def indent (pen : Pen) : Pen := { pen with level := pen.level + 1 }

/-- Nothing stands further out than the margin. -/
def dedent (pen : Pen) : Pen := { pen with level := pen.level - 1 }

/-- A line without text is not indented either. -/
def lineText (pen : Pen) (text : String) : String :=
  if text = "" then "\n" else pen.indentation ++ text ++ "\n"

/-- What a step writes, and the pen after it. -/
def take (pen : Pen) : Step → String × Pen
  | .indent => ("", pen.indent)
  | .dedent => ("", pen.dedent)
  | .blank => ("\n", pen)
  | .line text => (pen.lineText text, pen)
  | .nestedLine text => (pen.indent.lineText text, pen)

def write (pen : Pen) : List Step → String × Pen
  | [] => ("", pen)
  | step :: steps =>
    let (text, pen) := pen.take step
    let (rest, pen) := pen.write steps
    (text ++ rest, pen)

end Pen

def docLine (text : String) : Step := .line ("/// " ++ text)

def block (header : String) (body : List Step) (close : String := "\x7d") : List Step :=
  [.line (header ++ " \x7b"), .indent] ++ body ++ [.dedent, .line close]

end AbiBindings
