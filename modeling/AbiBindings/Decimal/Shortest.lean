namespace AbiBindings.Decimal

/-- The reals that round to one positive float: from `low` to `high`, with the float itself at
`value`, all over the denominator `scale`. The ends count when `closed`. -/
structure Neighbourhood where
  low : Nat
  value : Nat
  high : Nat
  scale : Nat
  closed : Bool
  deriving Repr

/-- The neighbourhood of `m * 2 ^ q`. Below a power of two the floats stand twice as close. -/
def neighbourhood (m : Nat) (q : Int) (powerOfTwo : Bool) : Neighbourhood :=
  let up := Nat.pow 2 (q - 2).toNat
  { low := (4 * m - if powerOfTwo then 1 else 2) * up
    value := 4 * m * up
    high := (4 * m + 2) * up
    scale := Nat.pow 2 (2 - q).toNat
    closed := m % 2 = 0 }

def signBit : Nat := 0x8000000000000000

/-- The first exponent bit, which is worth as much as the mantissa's hidden bit. -/
def hiddenBit : Nat := 0x10000000000000

def ofFloat (x : Float) : Neighbourhood :=
  let bits : Nat := x.toBits.toNat % signBit
  let fraction : Nat := bits % hiddenBit
  let exponent : Nat := bits / hiddenBit
  if exponent = 0 then neighbourhood fraction (-1074) false
  else neighbourhood (fraction + hiddenBit) ((exponent : Int) - 1075) (fraction = 0 ∧ 1 < exponent)

/-- The multiple of ten to the `k` that rounds to the float, as the count of such steps.
Of two the nearer is taken, and of two equally near the even one. -/
def onGrid (n : Neighbourhood) (k : Int) : Option Nat :=
  let up := Nat.pow 10 (-k).toNat
  let step := n.scale * Nat.pow 10 k.toNat
  let below := n.value * up / step
  let inside := fun d =>
    if n.closed then n.low * up ≤ d * step && d * step ≤ n.high * up
    else n.low * up < d * step && d * step < n.high * up
  match inside below, inside (below + 1) with
  | false, false => none
  | true, false => some below
  | false, true => some (below + 1)
  | true, true =>
    let twice := 2 * n.value * up
    let middle := (2 * below + 1) * step
    if twice < middle ∨ (twice = middle ∧ below % 2 = 0) then some below else some (below + 1)

def coarsest (n : Neighbourhood) : Nat → Int → Nat × Int
  | 0, k => (0, k)
  | count + 1, k =>
    match onGrid n k with
    | some d => (d, k)
    | none => coarsest n count (k - 1)

/-- The fewest digits that read back as the float's magnitude, and the power of ten of the last
one. Every finite float is hit between the hundreds of both signs. -/
def shortest (x : Float) : Nat × Int := coarsest (ofFloat x) 700 310

end AbiBindings.Decimal
