import AbiBindings.Text.Blank
import AbiBindings.Text.Split
import AbiBindings.TypeExpr.Basic

namespace AbiBindings.TypeExpr

/-- Words that begin a type. No keyword begins another. -/
inductive Keyword where
  | tuple
  | uint
  | int
  | address
  | bool
  | bytes
  | string
  deriving DecidableEq, Repr

namespace Keyword

def all : List Keyword := [.tuple, .uint, .int, .address, .bool, .bytes, .string]

def chars : Keyword → List Char
  | .tuple => ['t', 'u', 'p', 'l', 'e']
  | .uint => ['u', 'i', 'n', 't']
  | .int => ['i', 'n', 't']
  | .address => ['a', 'd', 'd', 'r', 'e', 's', 's']
  | .bool => ['b', 'o', 'o', 'l']
  | .bytes => ['b', 'y', 't', 'e', 's']
  | .string => ['s', 't', 'r', 'i', 'n', 'g']

def takesWidth : Keyword → Bool
  | .uint | .int | .bytes => true
  | _ => false

end Keyword

/-- What the grammar would have allowed where a text stops being a type. -/
inductive Expected where
  | type
  | suffix
  | widthOrSuffix
  | length
  deriving DecidableEq, Repr

def Expected.text : Expected → String
  | .type => "type_string"
  | .suffix => "EOI or array_suffix"
  | .widthOrSuffix => "EOI, width, or array_suffix"
  | .length => "array_len"

/-- The place where a text stops being a type, counted in characters. -/
structure Fault where
  position : Nat
  expected : Expected
  deriving DecidableEq, Repr

/-- A text that follows the grammar, with its numbers still unread.
An empty width or length was not written. -/
structure Spelling where
  keyword : Keyword
  width : List Char
  lengths : List (List Char)
  deriving DecidableEq, Repr

def scanKeyword (cs : List Char) : Option (Keyword × List Char) :=
  Keyword.all.findSome? fun k => (Text.afterPrefix k.chars cs).map (k, ·)

/-- A width does not begin with zero. -/
def scanWidth (k : Keyword) : List Char → List Char × List Char
  | [] => ([], [])
  | c :: cs =>
    if k.takesWidth ∧ c.isDigit ∧ c ≠ '0' then
      ((c :: cs).takeWhile Char.isDigit, (c :: cs).dropWhile Char.isDigit)
    else ([], c :: cs)

/-- Reads array suffixes up to the end of the text. Inside brackets the digits read so far are
kept, last first. A suffix that holds digits but does not close fails at its opening bracket. -/
def scanSuffixes (position : Nat) : Option (List Char) → List Char → Except Fault (List (List Char))
  | none, [] => .ok []
  | none, c :: cs =>
    if c = '[' then scanSuffixes (position + 1) (some []) cs
    else .error ⟨position, .suffix⟩
  | some digits, [] => .error (unclosed digits)
  | some digits, c :: cs =>
    if c = ']' then (scanSuffixes (position + 1) none cs).map (digits.reverse :: ·)
    else if c.isDigit then scanSuffixes (position + 1) (some (c :: digits)) cs
    else .error (unclosed digits)
where
  unclosed : List Char → Fault
    | [] => ⟨position, .length⟩
    | digits => ⟨position - digits.length - 1, .suffix⟩

/-- Straight after a keyword that takes a width, a width was possible too. -/
def Fault.after (k : Keyword) (width : List Char) (fault : Fault) : Fault :=
  if k.takesWidth ∧ width = [] ∧ fault = ⟨k.chars.length, .suffix⟩ then
    { fault with expected := .widthOrSuffix }
  else fault

def scan (cs : List Char) : Except Fault Spelling :=
  match scanKeyword cs with
  | none => .error ⟨0, .type⟩
  | some (keyword, rest) =>
    let (width, rest') := scanWidth keyword rest
    match scanSuffixes (keyword.chars.length + width.length) none rest' with
    | .error fault => .error (fault.after keyword width)
    | .ok lengths => .ok ⟨keyword, width, lengths⟩

/-- Why a text is not a type. The digits are those that were written. -/
inductive ParseError where
  | empty
  | outsideGrammar (text : List Char) (fault : Fault)
  | integerWidth (digits : String)
  | bytesLength (digits : String)
  | arrayLength (digits : String)
  deriving DecidableEq, Repr

def number (digits : List Char) : Nat := Nat.ofDigitChars 10 digits 0

/-- Integers are 256 bits wide unless another multiple of eight is written. -/
def readIntegerWidth : List Char → Except ParseError Nat
  | [] => .ok 256
  | digits =>
    let bits := number digits
    if bits % 8 = 0 ∧ 8 ≤ bits ∧ bits ≤ 256 then .ok bits
    else .error (.integerWidth (String.ofList digits))

def readBytesLength (digits : List Char) : Except ParseError Nat :=
  let size := number digits
  if 1 ≤ size ∧ size ≤ 32 then .ok size else .error (.bytesLength (String.ofList digits))

def readBase (k : Keyword) (width : List Char) : Except ParseError Base :=
  match k with
  | .tuple => .ok .tuple
  | .uint => (readIntegerWidth width).map (.elementary <| .uint ·)
  | .int => (readIntegerWidth width).map (.elementary <| .int ·)
  | .address => .ok (.elementary .address)
  | .bool => .ok (.elementary .bool)
  | .bytes =>
    if width = [] then .ok (.elementary .bytes)
    else (readBytesLength width).map (.elementary <| .fixedBytes ·)
  | .string => .ok (.elementary .string)

def maxLength : Nat := 0xffffffffffffffff

def readLength : List Char → Except ParseError (Option Nat)
  | [] => .ok none
  | digits =>
    let n := number digits
    if 0 < n ∧ n ≤ maxLength then .ok (some n)
    else .error (.arrayLength (String.ofList digits))

def readLengths : List (List Char) → Except ParseError (List (Option Nat))
  | [] => .ok []
  | digits :: rest =>
    match readLength digits with
    | .error e => .error e
    | .ok dim => (readLengths rest).map (dim :: ·)

/-- The first number out of range, from the left, decides. -/
def Spelling.read (s : Spelling) : Except ParseError TypeExpr :=
  match readBase s.keyword s.width with
  | .error e => .error e
  | .ok base => (readLengths s.lengths).map (TypeExpr.mk base)

/-- Reads a type between blanks. The grammar is settled before any number is looked at. -/
def parseChars (cs : List Char) : Except ParseError TypeExpr :=
  match Text.trimChars cs with
  | [] => .error .empty
  | trimmed =>
    match scan trimmed with
    | .error fault => .error (.outsideGrammar trimmed fault)
    | .ok spelling => spelling.read

def parse (s : String) : Except ParseError TypeExpr := parseChars s.toList

def lineAround (cs : List Char) (position : Nat) : List Char :=
  let after := cs.drop position
  cs.take position ++ after.takeWhile (· ≠ '\n') ++ (after.dropWhile (· ≠ '\n')).take 1

/-- Line ends are shown as signs when the fault is at one, and left out otherwise. -/
def shownLine (cs : List Char) (position : Nat) : List Char :=
  let line := lineAround cs position
  match cs.drop position with
  | c :: _ =>
    if c = '\r' ∨ c = '\n' then
      line.map fun c => if c = '\r' then '␍' else if c = '\n' then '␊' else c
    else line.filter fun c => c ≠ '\r' ∧ c ≠ '\n'
  | [] => line.filter fun c => c ≠ '\r' ∧ c ≠ '\n'

/-- Spaces up to the caret; a tab stays a tab so that the columns agree. -/
def caretIndent (cs : List Char) (position : Nat) : List Char :=
  (cs.take position).map fun c => if c = '\t' then '\t' else ' '

def Fault.picture (cs : List Char) (fault : Fault) : String :=
  "\n".intercalate [
    " --> 1:" ++ toString (fault.position + 1),
    "  |",
    "1 | " ++ String.ofList (shownLine cs fault.position),
    "  | " ++ String.ofList (caretIndent cs fault.position) ++ "^---",
    "  |",
    "  = expected " ++ fault.expected.text]

def ParseError.message : ParseError → String
  | .empty => "empty type string"
  | .outsideGrammar text fault => "syntax error: " ++ fault.picture text
  | .integerWidth digits =>
    "integer width `" ++ digits ++ "` must be a multiple of 8 between 8 and 256"
  | .bytesLength digits => "fixed bytes length `" ++ digits ++ "` must be between 1 and 32"
  | .arrayLength digits => "array length `" ++ digits ++ "` must be a positive integer"

end AbiBindings.TypeExpr
