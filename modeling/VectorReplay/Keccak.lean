import VectorReplay.Bytes

/-!
Keccak with a rate of 136 bytes and 32 bytes of output.
-/
namespace VectorReplay.Keccak

/-- Twenty-five lanes, `x + 5 * y`. -/
abbrev State := List UInt64

def lane (a : State) (i : Nat) : UInt64 :=
  a.getD i 0

def rotate (x : UInt64) (n : Nat) : UInt64 :=
  if n = 0 then x else (x <<< UInt64.ofNat n) ||| (x >>> UInt64.ofNat (64 - n))

def roundConstants : List UInt64 := [
  0x0000000000000001, 0x0000000000008082, 0x800000000000808A, 0x8000000080008000,
  0x000000000000808B, 0x0000000080000001, 0x8000000080008081, 0x8000000000008009,
  0x000000000000008A, 0x0000000000000088, 0x0000000080008009, 0x000000008000000A,
  0x000000008000808B, 0x800000000000008B, 0x8000000000008089, 0x8000000000008003,
  0x8000000000008002, 0x8000000000000080, 0x000000000000800A, 0x800000008000000A,
  0x8000000080008081, 0x8000000000008080, 0x0000000080000001, 0x8000000080008008]

/-- The rotation of each lane. -/
def offsets : List Nat :=
  [0, 1, 62, 28, 27, 36, 44, 6, 55, 20, 3, 10, 43, 25, 39, 41, 45, 15, 21, 8, 18, 2, 61, 56, 14]

def lanes : List Nat := List.range 25

def theta (a : State) : State :=
  let column := (List.range 5).map fun x =>
    lane a x ^^^ lane a (x + 5) ^^^ lane a (x + 10) ^^^ lane a (x + 15) ^^^ lane a (x + 20)
  let parity := (List.range 5).map fun x =>
    column.getD ((x + 4) % 5) 0 ^^^ rotate (column.getD ((x + 1) % 5) 0) 1
  lanes.map fun i => lane a i ^^^ parity.getD (i % 5) 0

/-- Rotates the lanes and moves lane `(x, y)` to `(y, 2x + 3y)`. -/
def rhoPi (a : State) : State :=
  let rotated := lanes.map fun i => rotate (lane a i) (offsets.getD i 0)
  lanes.map fun i =>
    let x := i % 5
    let y := i / 5
    lane rotated ((x + 3 * y) % 5 + 5 * x)

def chi (a : State) : State :=
  lanes.map fun i =>
    let row := 5 * (i / 5)
    lane a i ^^^ (~~~lane a (row + (i + 1) % 5) &&& lane a (row + (i + 2) % 5))

def iota (c : UInt64) : State → State
  | [] => []
  | x :: rest => (x ^^^ c) :: rest

def permute (a : State) : State :=
  roundConstants.foldl (fun a c => iota c (chi (rhoPi (theta a)))) a

/-- The first eight bytes, little-endian. -/
def laneOfBytes (b : Bytes) : UInt64 :=
  (b.take 8).foldr (fun x n => (n <<< 8) ||| x.toUInt64) 0

def lanesOfBytes : Nat → Bytes → List UInt64
  | 0, _ => []
  | n + 1, b => laneOfBytes b :: lanesOfBytes n (b.drop 8)

def bytesOfLane (x : UInt64) : Bytes :=
  (List.range 8).map fun i => (x >>> UInt64.ofNat (8 * i)).toUInt8

def absorb (a : State) (block : Bytes) : State :=
  permute ((lanesOfBytes 25 block).zipWith (· ^^^ ·) a)

/-- Fills the last block: a one bit, zeros, a one bit. -/
def pad (b : Bytes) : Bytes :=
  let free := 136 - b.length % 136
  if free = 1 then b ++ [0x81] else b ++ [0x01] ++ List.replicate (free - 2) 0 ++ [0x80]

def absorbAll : Nat → State → Bytes → State
  | 0, a, _ => a
  | n + 1, a, b => absorbAll n (absorb a (b.take 136)) (b.drop 136)

/-- The 256-bit digest. -/
def hash (b : Bytes) : Hash :=
  let padded := pad b
  let a := absorbAll (padded.length / 136) (List.replicate 25 0) padded
  FixedBytes.ofNat 32 (Bytes.toNat ((a.take 4).flatMap bytesOfLane))

end VectorReplay.Keccak
