import AbiBindings.Json.Value

namespace AbiBindings.Json

structure Numeral where
  negative : Bool
  whole : List Char
  fraction : Option (List Char)
  /-- Whether the exponent is below zero, and its digits. -/
  exponent : Option (Bool × List Char)
  deriving Repr

def someDigits (cs : List Char) : Option (List Char × List Char) :=
  match cs.takeWhile Char.isDigit with
  | [] => none
  | digits => some (digits, cs.dropWhile Char.isDigit)

/-- A whole part of several digits does not begin with zero. -/
def wholePart (cs : List Char) : Option (List Char × List Char) :=
  match someDigits cs with
  | some ('0' :: _ :: _, _) => none
  | found => found

def fractionPart : List Char → Option (Option (List Char) × List Char)
  | '.' :: cs => (someDigits cs).map fun (digits, rest) => (some digits, rest)
  | cs => some (none, cs)

def exponentSign : List Char → Bool × List Char
  | '-' :: cs => (true, cs)
  | '+' :: cs => (false, cs)
  | cs => (false, cs)

def exponentPart : List Char → Option (Option (Bool × List Char) × List Char)
  | [] => some (none, [])
  | c :: cs =>
    if c = 'e' ∨ c = 'E' then
      let (negative, cs) := exponentSign cs
      (someDigits cs).map fun (digits, rest) => (some (negative, digits), rest)
    else some (none, c :: cs)

def Numeral.ofUnsigned? (negative : Bool) (cs : List Char) : Option Numeral := do
  let (whole, cs) ← wholePart cs
  let (fraction, cs) ← fractionPart cs
  let (exponent, cs) ← exponentPart cs
  if cs = [] then some ⟨negative, whole, fraction, exponent⟩ else none

def Numeral.ofChars? : List Char → Option Numeral
  | '-' :: cs => Numeral.ofUnsigned? true cs
  | cs => Numeral.ofUnsigned? false cs

def maxSignificand : Nat := 0xffffffffffffffff

/-- Appends digits as long as the significand fits into 64 bits, and counts those left over. -/
def appendDigits : Nat → List Char → Nat × Nat
  | significand, [] => (significand, 0)
  | significand, c :: cs =>
    let next := significand * 10 + (c.toNat - '0'.toNat)
    if next ≤ maxSignificand then appendDigits next cs else (significand, (c :: cs).length)

def tenToThe (n : Nat) : Float := Float.ofScientific 1 false n

def maxPower : Nat := 308

/-- Divides by a power of ten, in several steps when the power is no float. -/
def divideByPower (x : Float) (n : Nat) : Float :=
  if _h : n ≤ maxPower then x / tenToThe n
  else if x == 0 then x
  else divideByPower (x / tenToThe maxPower) (n - maxPower)
termination_by n
decreasing_by simp only [maxPower] at *; omega

def multiplyByPower (x : Float) (n : Nat) : Option Float :=
  if n ≤ maxPower then
    let y := x * tenToThe n
    if y.isInf then none else some y
  else if x == 0 then some x
  else none

def scale (significand : Nat) (exponent : Int) : Option Float :=
  let x := significand.toUInt64.toFloat
  if 0 ≤ exponent then multiplyByPower x exponent.toNat
  else some (divideByPower x exponent.natAbs)

def maxExponent : Nat := 0x7fffffff

def Numeral.magnitude? (n : Numeral) : Option Float :=
  let (significand, left) := appendDigits 0 n.whole
  let digits := n.fraction.getD []
  let (significand, unread) := appendDigits significand digits
  let start : Int := left - (digits.length - unread : Nat)
  match n.exponent with
  | none => scale significand start
  | some (negative, digits) =>
    let exponent := Nat.ofDigitChars 10 digits 0
    if maxExponent < exponent then
      if significand ≠ 0 ∧ !negative then none else some 0
    else scale significand (if negative then start - exponent else start + exponent)

def maxNegated : Nat := 0x8000000000000000

/-- The value of a numeral, or none for one beyond the floats. Minus zero is a float. -/
def Numeral.value? (n : Numeral) : Option Json :=
  let (significand, left) := appendDigits 0 n.whole
  let whole := n.fraction.isNone ∧ n.exponent.isNone ∧ left = 0
  if whole ∧ !n.negative then some (.int significand)
  else if whole ∧ 0 < significand ∧ significand ≤ maxNegated then some (.int (-significand))
  else n.magnitude?.map fun x => .float (if n.negative then -x else x)

end AbiBindings.Json
