import VectorReplay.Bytes

/-!
The curve y² = x³ + 7 over the field of `field` elements, and the recovery of a public key from an
ECDSA signature. Points are kept in Jacobian coordinates; `z = 0` is the neutral element.
-/
namespace VectorReplay.Secp256k1

def field : Nat := 0xFFFFFFFFFFFFFFFFFFFFFFFFFFFFFFFFFFFFFFFFFFFFFFFFFFFFFFFEFFFFFC2F

/-- The order of the group. -/
def order : Nat := 0xFFFFFFFFFFFFFFFFFFFFFFFFFFFFFFFEBAAEDCE6AF48A03BBFD25E8CD0364141

/-- `b ^ e` modulo `m`, for exponents below `2 ^ fuel`. -/
def powMod (m : Nat) : (fuel : Nat) → (b e : Nat) → Nat
  | 0, _, _ => 1 % m
  | fuel + 1, b, e =>
    let half := powMod m fuel (b * b % m) (e / 2)
    if e % 2 = 1 then half * b % m else half

def inverse (m b : Nat) : Nat :=
  powMod m 256 (b % m) (m - 2)

def sub (a b : Nat) : Nat :=
  (a + field - b) % field

structure Point where
  x : Nat
  y : Nat
  z : Nat
deriving DecidableEq

namespace Point

def zero : Point := ⟨1, 1, 0⟩

def double (p : Point) : Point :=
  if p.z = 0 ∨ p.y = 0 then zero
  else
    let yy := p.y * p.y % field
    let s := 4 * p.x * yy % field
    let m := 3 * p.x * p.x % field
    let x := sub (m * m % field) (2 * s % field)
    ⟨x, sub (m * sub s x % field) (8 * yy * yy % field), 2 * p.y * p.z % field⟩

def add (p q : Point) : Point :=
  if p.z = 0 then q
  else if q.z = 0 then p
  else
    let pz := p.z * p.z % field
    let qz := q.z * q.z % field
    let u := p.x * qz % field
    let v := q.x * pz % field
    let s := p.y * qz * q.z % field
    let t := q.y * pz * p.z % field
    if u = v then (if s = t then double p else zero)
    else
      let h := sub v u
      let r := sub t s
      let hh := h * h % field
      let hhh := h * hh % field
      let w := u * hh % field
      let x := sub (sub (r * r % field) hhh) (2 * w % field)
      ⟨x, sub (r * sub w x % field) (s * hhh % field), h * p.z * q.z % field⟩

/-- `k • p`, for `k` below `2 ^ fuel`. -/
def scale (p : Point) : (fuel : Nat) → (k : Nat) → Point
  | 0, _ => zero
  | fuel + 1, k =>
    let half := double (scale p fuel (k / 2))
    if k % 2 = 1 then add half p else half

def affine (p : Point) : Nat × Nat :=
  let i := inverse field p.z
  let ii := i * i % field
  (p.x * ii % field, p.y * ii * i % field)

end Point

def generator : Point :=
  ⟨0x79BE667EF9DCBBAC55A06295CE870B07029BFCDB2DCE28D959F2815B16F81798,
    0x483ADA7726A3C4655DA4FBFC0E1108A8FD17B448A68554199C47D08FFB10D4B8, 1⟩

/-- The point with abscissa `x` and the wanted parity of the ordinate. -/
def lift? (x : Nat) (odd : Bool) : Option Point :=
  let square := (x * x * x + 7) % field
  let y := powMod field 256 square ((field + 1) / 4)
  if field ≤ x ∨ y * y % field ≠ square then none
  else if (y % 2 == 1) == odd then some ⟨x, y, 1⟩ else some ⟨x, field - y, 1⟩

/-- The affine public key that signed `message` with `(r, s)`. -/
def recover? (message r s : Nat) (odd : Bool) : Option (Nat × Nat) := do
  if r = 0 ∨ order ≤ r ∨ s = 0 ∨ order ≤ s then none
  else
    let point ← lift? r odd
    let i := inverse order r
    let a := (order - message % order) * i % order
    let b := s * i % order
    let key := (generator.scale 256 a).add (point.scale 256 b)
    if key.z = 0 then none else some key.affine

end VectorReplay.Secp256k1
