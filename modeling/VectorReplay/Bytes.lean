/-!
Byte strings and their big-endian values, and byte strings of a fixed length.
-/
namespace VectorReplay

abbrev Bytes := List UInt8

namespace Bytes

/-- The big-endian value. -/
def toNat (b : Bytes) : Nat :=
  b.foldl (fun n x => n * 256 + x.toNat) 0

/-- The shortest big-endian form; zero has no bytes. -/
def ofNat (n : Nat) : Bytes :=
  if n = 0 then [] else ofNat (n / 256) ++ [UInt8.ofNat n]

/-- The low `k` bytes of a number, big-endian. -/
def bigEndian : (k : Nat) → (n : Nat) → Bytes
  | 0, _ => []
  | k + 1, n => bigEndian k (n / 256) ++ [UInt8.ofNat n]

@[simp] theorem length_bigEndian (k n : Nat) : (bigEndian k n).length = k := by
  induction k generalizing n with
  | zero => rfl
  | succ k ih => simp [bigEndian, ih]

end Bytes

/-- A byte string of exactly `n` bytes. -/
structure FixedBytes (n : Nat) where
  bytes : Bytes
  length_eq : bytes.length = n
deriving DecidableEq

namespace FixedBytes

@[ext] theorem ext {n : Nat} {a b : FixedBytes n} (h : a.bytes = b.bytes) : a = b := by
  cases a; cases b; cases h; rfl

/-- The low `k` bytes of a number. -/
def ofNat (k n : Nat) : FixedBytes k :=
  ⟨Bytes.bigEndian k n, Bytes.length_bigEndian k n⟩

def ofBytes? (k : Nat) (b : Bytes) : Option (FixedBytes k) :=
  if h : b.length = k then some ⟨b, h⟩ else none

def zero (k : Nat) : FixedBytes k :=
  ⟨List.replicate k 0, List.length_replicate⟩

def toNat {k : Nat} (a : FixedBytes k) : Nat :=
  Bytes.toNat a.bytes

instance {k : Nat} : Inhabited (FixedBytes k) := ⟨zero k⟩

@[simp] theorem ofBytes?_bytes {k : Nat} (a : FixedBytes k) : ofBytes? k a.bytes = some a := by
  simp [ofBytes?, a.length_eq]

end FixedBytes

/-- An account address. -/
abbrev Address := FixedBytes 20

/-- A hash, or a storage key or value in its fixed-width form. -/
abbrev Hash := FixedBytes 32

end VectorReplay
