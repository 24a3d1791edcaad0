namespace AbiBindings.Keccak

/-- Twenty-five lanes; lane (x, y) stands at `x + 5 * y`. -/
abbrev Lanes := Vector UInt64 25

/-- Coordinates wrap around at five. -/
def lane (a : Lanes) (x y : Nat) : UInt64 :=
  have : x % 5 + 5 * (y % 5) < 25 := by omega
  a[x % 5 + 5 * (y % 5)]

def build (f : Nat → Nat → UInt64) : Lanes :=
  Vector.ofFn fun i => f (i.val % 5) (i.val / 5)

def rotate (x : UInt64) (n : Nat) : UInt64 :=
  (x <<< n.toUInt64) ||| (x >>> (64 - n).toUInt64)

def parity (a : Lanes) (x : Nat) : UInt64 :=
  lane a x 0 ^^^ lane a x 1 ^^^ lane a x 2 ^^^ lane a x 3 ^^^ lane a x 4

def theta (a : Lanes) : Lanes :=
  let parities := Vector.ofFn fun x : Fin 5 => parity a x
  let column := fun (x : Nat) =>
    have : x % 5 < 5 := Nat.mod_lt x (by decide)
    parities[x % 5]
  build fun x y => lane a x y ^^^ column (x + 4) ^^^ rotate (column (x + 1)) 1

def distances : Lanes := #v[
  0, 1, 62, 28, 27,
  36, 44, 6, 55, 20,
  3, 10, 43, 25, 39,
  41, 45, 15, 21, 8,
  18, 2, 61, 56, 14]

/-- Rotates every lane and moves lane (x, y) to (y, 2x + 3y). -/
def rhoPi (a : Lanes) : Lanes :=
  build fun x y => rotate (lane a (x + 3 * y) x) (lane distances (x + 3 * y) x).toNat

def chi (a : Lanes) : Lanes :=
  build fun x y => lane a x y ^^^ (~~~ lane a (x + 1) y &&& lane a (x + 2) y)

def iota (a : Lanes) (constant : UInt64) : Lanes :=
  a.set 0 (a[0] ^^^ constant)

def roundConstants : List UInt64 := [
  0x0000000000000001, 0x0000000000008082, 0x800000000000808a, 0x8000000080008000,
  0x000000000000808b, 0x0000000080000001, 0x8000000080008081, 0x8000000000008009,
  0x000000000000008a, 0x0000000000000088, 0x0000000080008009, 0x000000008000000a,
  0x000000008000808b, 0x800000000000008b, 0x8000000000008089, 0x8000000000008003,
  0x8000000000008002, 0x8000000000000080, 0x000000000000800a, 0x800000008000000a,
  0x8000000080008081, 0x8000000000008080, 0x0000000080000001, 0x8000000080008008]

def permute (a : Lanes) : Lanes :=
  roundConstants.foldl (fun a constant => iota (chi (rhoPi (theta a))) constant) a

def rate : Nat := 136

/-- Fills the message up to a multiple of the rate. One byte carries both marks when one is free. -/
def pad (message : List UInt8) : List UInt8 :=
  let free := rate - message.length % rate
  if free = 1 then message ++ [0x81]
  else message ++ 0x01 :: List.replicate (free - 2) 0x00 ++ [0x80]

def laneOfBytes (bytes : List UInt8) : UInt64 :=
  bytes.foldr (fun b acc => acc <<< 8 ||| b.toUInt64) 0

def mix (a : Lanes) (block : List UInt8) : Lanes :=
  Vector.ofFn fun i => a[i] ^^^ laneOfBytes ((block.drop (8 * i.val)).take 8)

def absorb : Nat → Lanes → List UInt8 → Lanes
  | 0, a, _ => a
  | blocks + 1, a, bytes => absorb blocks (permute (mix a (bytes.take rate))) (bytes.drop rate)

abbrev Digest := Vector UInt8 32

abbrev Selector := Vector UInt8 4

def squeeze (a : Lanes) : Digest :=
  Vector.ofFn fun i =>
    have : i.val / 8 < 25 := by omega
    (a[i.val / 8] >>> (8 * (i.val % 8)).toUInt64).toUInt8

/-- Keccak-256 with the padding that contract interfaces use. -/
def hash (message : List UInt8) : Digest :=
  let padded := pad message
  squeeze (absorb (padded.length / rate) (Vector.replicate 25 0) padded)

def hashText (s : String) : Digest := hash s.toUTF8.toList

end AbiBindings.Keccak
