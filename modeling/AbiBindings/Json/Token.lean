import AbiBindings.Json.Number

namespace AbiBindings.Json

inductive Token where
  | openArray
  | closeArray
  | openObject
  | closeObject
  | comma
  | colon
  | text (s : String)
  /-- A literal or a number. -/
  | plain (value : Json)

/-- A character of a string, or a unit written by its number. -/
inductive Piece where
  | char (c : Char)
  | unit (n : Nat)
  deriving DecidableEq, Repr

def hexValue (c : Char) : Option Nat :=
  if c.isDigit then some (c.toNat - '0'.toNat)
  else if 'a' ≤ c ∧ c ≤ 'f' then some (c.toNat - 'a'.toNat + 10)
  else if 'A' ≤ c ∧ c ≤ 'F' then some (c.toNat - 'A'.toNat + 10)
  else none

def hexUnit (a b c d : Char) : Option Nat := do
  let a ← hexValue a
  let b ← hexValue b
  let c ← hexValue c
  let d ← hexValue d
  some (((a * 16 + b) * 16 + c) * 16 + d)

def simpleEscape : Char → Option Char
  | '"' => some '"'
  | '\\' => some '\\'
  | '/' => some '/'
  | 'b' => some (Char.ofNat 0x08)
  | 'f' => some (Char.ofNat 0x0c)
  | 'n' => some '\n'
  | 'r' => some '\r'
  | 't' => some '\t'
  | _ => none

/-- What stands between the quotes. Control characters have to be escaped. -/
def pieces : List Char → Option (List Piece)
  | [] => some []
  | '\\' :: 'u' :: a :: b :: c :: d :: rest => do
    let unit ← hexUnit a b c d
    let more ← pieces rest
    some (.unit unit :: more)
  | '\\' :: c :: rest => do
    let c ← simpleEscape c
    let more ← pieces rest
    some (.char c :: more)
  | c :: rest =>
    if c.toNat < 0x20 ∨ c = '\\' then none
    else (pieces rest).map (.char c :: ·)

def isLeading (n : Nat) : Bool := 0xd800 ≤ n && n < 0xdc00

def isTrailing (n : Nat) : Bool := 0xdc00 ≤ n && n < 0xe000

/-- Joins the two halves of a code point; no half may stand alone. -/
def joinUnits : List Piece → Option (List Char)
  | [] => some []
  | .char c :: rest => (joinUnits rest).map (c :: ·)
  | .unit n :: rest =>
    if isTrailing n then none
    else if isLeading n then
      match rest with
      | .unit m :: rest =>
        if isTrailing m then
          (joinUnits rest).map
            (Char.ofNat (0x10000 + (n - 0xd800) * 0x400 + (m - 0xdc00)) :: ·)
        else none
      | _ => none
    else (joinUnits rest).map (Char.ofNat n :: ·)

def readText (cs : List Char) : Option String := do
  let units ← pieces cs
  let text ← joinUnits units
  some (String.ofList text)

def readWord (cs : List Char) : Option Json :=
  if cs = ['n', 'u', 'l', 'l'] then some .null
  else if cs = ['t', 'r', 'u', 'e'] then some (.bool true)
  else if cs = ['f', 'a', 'l', 's', 'e'] then some (.bool false)
  else do
    let numeral ← Numeral.ofChars? cs
    numeral.value?

def isSpace (c : Char) : Bool := c = ' ' || c = '\t' || c = '\n' || c = '\r'

def mark? : Char → Option Token
  | '[' => some .openArray
  | ']' => some .closeArray
  | '\x7b' => some .openObject
  | '\x7d' => some .closeObject
  | ',' => some .comma
  | ':' => some .colon
  | _ => none

/-- Where the lexer stands. What has been read of a token is kept last first. -/
inductive Mode where
  | between
  | word (read : List Char)
  | quoted (read : List Char)
  | escaped (read : List Char)

/-- A character between tokens: the tokens it completes, and the mode it leaves. -/
def enter (c : Char) : List Token × Mode :=
  if isSpace c then ([], .between)
  else if c = '"' then ([], .quoted [])
  else match mark? c with
    | some token => ([token], .between)
    | none => ([], .word [c])

def endsWord (c : Char) : Bool := isSpace c || c = '"' || (mark? c).isSome

def step (mode : Mode) (c : Char) : Option (List Token × Mode) :=
  match mode with
  | .between => some (enter c)
  | .word read =>
    if endsWord c then
      (readWord read.reverse).map fun value =>
        let (tokens, mode) := enter c
        (.plain value :: tokens, mode)
    else some ([], .word (c :: read))
  | .quoted read =>
    if c = '"' then (readText read.reverse).map fun s => ([.text s], .between)
    else if c = '\\' then some ([], .escaped (c :: read))
    else some ([], .quoted (c :: read))
  | .escaped read => some ([], .quoted (c :: read))

def finish : Mode → Option (List Token)
  | .between => some []
  | .word read => (readWord read.reverse).map ([.plain ·])
  | .quoted _ => none
  | .escaped _ => none

def lex (mode : Mode) : List Char → Option (List Token)
  | [] => finish mode
  | c :: cs =>
    match step mode c with
    | none => none
    | some (tokens, mode) => (lex mode cs).map (tokens ++ ·)

end AbiBindings.Json
