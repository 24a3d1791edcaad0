import AbiBindings.Decimal.Shortest

namespace AbiBindings

/-- A JSON value. A number without fraction and exponent that fits into 64 bits is an integer, and
every other number a float. Members ascend by key, each key once. -/
inductive Json where
  | null
  | bool (b : Bool)
  | int (n : Int)
  | float (x : Float)
  | string (s : String)
  | array (items : List Json)
  | object (members : List (String × Json))
  deriving Inhabited

namespace Json

/-- Adds a member in key order; a later member with the same key replaces an earlier one. -/
def setMember (key : String) (value : Json) : List (String × Json) → List (String × Json)
  | [] => [(key, value)]
  | (k, v) :: rest =>
    if k = key then (key, value) :: rest
    else if key < k then (key, value) :: (k, v) :: rest
    else (k, v) :: setMember key value rest

def member? (key : String) (members : List (String × Json)) : Option Json := members.lookup key

/-- Digits of a float with the power of ten of the last one. Small and large magnitudes take an
exponent, the others are written out with at least one place. -/
def decimalText (digits : List Char) (last : Int) : List Char :=
  let leading := last + digits.length - 1
  if leading < -5 ∨ 15 < leading then
    let mantissa := match digits with
      | d :: r :: rest => d :: '.' :: r :: rest
      | _ => digits
    let sign := if leading < 0 then '-' else '+'
    mantissa ++ 'e' :: sign :: Nat.toDigits 10 leading.natAbs
  else if 0 ≤ last then digits ++ List.replicate last.toNat '0' ++ ['.', '0']
  else if 0 ≤ leading then
    digits.take (leading.toNat + 1) ++ '.' :: digits.drop (leading.toNat + 1)
  else '0' :: '.' :: List.replicate (-leading - 1).toNat '0' ++ digits

def floatText (x : Float) : String :=
  let negative := Decimal.signBit ≤ x.toBits.toNat
  let magnitude :=
    if x == 0 then ['0', '.', '0']
    else
      let (digits, last) := Decimal.shortest x
      decimalText (Nat.toDigits 10 digits) last
  String.ofList (if negative then '-' :: magnitude else magnitude)

end Json

end AbiBindings
