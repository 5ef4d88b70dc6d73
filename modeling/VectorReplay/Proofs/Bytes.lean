import VectorReplay.Word
import Mathlib.Data.List.Induction
import Mathlib.Tactic.Ring

/-!
Byte strings as base-256 numerals. The shortest form is inverse to the value on numerals without a
leading zero; the fixed-width form keeps every value that it has room for.
-/
namespace VectorReplay

namespace Bytes

@[simp] theorem toNat_nil : toNat [] = 0 := rfl

@[simp] theorem toNat_concat (b : Bytes) (x : UInt8) :
    toNat (b ++ [x]) = toNat b * 256 + x.toNat := by
  simp [toNat]

theorem toNat_append (a b : Bytes) : toNat (a ++ b) = toNat a * 256 ^ b.length + toNat b := by
  induction b using List.reverseRecOn with
  | nil => simp
  | append_singleton b x ih =>
    rw [← List.append_assoc, toNat_concat, ih, toNat_concat, List.length_append,
      List.length_singleton, pow_succ]
    ring

theorem toNat_lt (b : Bytes) : toNat b < 256 ^ b.length := by
  induction b using List.reverseRecOn with
  | nil => simp
  | append_singleton b x ih =>
    have hx : x.toNat < 256 := x.toNat_lt
    rw [toNat_concat, List.length_append, List.length_singleton, pow_succ]
    omega

/-- A numeral that does not start with zero is at least the weight of its first digit. -/
theorem pow_le_toNat {x : UInt8} {b : Bytes} (h : x ≠ 0) : 256 ^ b.length ≤ toNat (x :: b) := by
  have hx : 0 < x.toNat := by
    rw [Nat.pos_iff_ne_zero]
    intro hz
    exact h (UInt8.toNat_inj.mp (by simpa using hz))
  have happ := toNat_append [x] b
  rw [List.singleton_append] at happ
  rw [happ]
  have hmul : 1 * 256 ^ b.length ≤ toNat [x] * 256 ^ b.length :=
    Nat.mul_le_mul_right _ (by simpa [toNat] using Nat.succ_le_of_lt hx)
  omega

/-! ### Shortest form -/

@[simp] theorem ofNat_zero : ofNat 0 = [] := by
  rw [ofNat]
  simp

theorem ofNat_pos {n : Nat} (h : n ≠ 0) : ofNat n = ofNat (n / 256) ++ [UInt8.ofNat n] := by
  rw [ofNat]
  simp [h]

@[simp] theorem toNat_ofNat (n : Nat) : toNat (ofNat n) = n := by
  induction n using Nat.strongRecOn with
  | ind n ih =>
    by_cases h : n = 0
    · simp [h]
    · have hdiv : n / 256 < n := Nat.div_lt_self (by omega) (by omega)
      rw [ofNat_pos h, toNat_concat, ih _ hdiv, UInt8.toNat_ofNat']
      omega

theorem ofNat_eq_nil {n : Nat} : ofNat n = [] ↔ n = 0 := by
  constructor
  · intro h
    have hn := toNat_ofNat n
    rw [h] at hn
    simpa using hn.symm
  · rintro rfl
    simp

theorem head?_ofNat (n : Nat) : (ofNat n).head? ≠ some 0 := by
  induction n using Nat.strongRecOn with
  | ind n ih =>
    by_cases h : n = 0
    · simp [h]
    · have hdiv : n / 256 < n := Nat.div_lt_self (by omega) (by omega)
      rw [ofNat_pos h, List.head?_append]
      by_cases hq : n / 256 = 0
      · -- a single digit is the number itself
        have hn : UInt8.ofNat n ≠ 0 := by
          intro hz
          have hz' := congrArg UInt8.toNat hz
          simp only [UInt8.toNat_ofNat', UInt8.toNat_zero] at hz'
          omega
        simpa [hq] using hn
      · have hne : ofNat (n / 256) ≠ [] := by simpa [ofNat_eq_nil] using hq
        cases hs : ofNat (n / 256) with
        | nil => exact absurd hs hne
        | cons y ys => simpa [hs] using ih _ hdiv

theorem ofNat_toNat {b : Bytes} (h : b.head? ≠ some 0) : ofNat (toNat b) = b := by
  induction b using List.reverseRecOn with
  | nil => simp
  | append_singleton b x ih =>
    have hx : x.toNat < 256 := x.toNat_lt
    have hdiv : (toNat b * 256 + x.toNat) / 256 = toNat b := by omega
    have hpos : toNat b * 256 + x.toNat ≠ 0 := by
      intro hz
      cases b with
      | nil =>
        have hx0 : x = 0 := UInt8.toNat_inj.mp (by simpa using hz)
        simp [hx0] at h
      | cons y b =>
        have hy : y ≠ 0 := by simpa using h
        have hle := pow_le_toNat (b := b) hy
        have hpow : 0 < 256 ^ b.length := Nat.pow_pos (by omega)
        omega
    have hb : b.head? ≠ some 0 := by
      cases b with
      | nil => simp
      | cons y b => simpa using h
    have hlast : UInt8.ofNat (toNat b * 256 + x.toNat) = x := by
      apply UInt8.toNat_inj.mp
      rw [UInt8.toNat_ofNat']
      omega
    rw [toNat_concat, ofNat_pos hpos, hdiv, ih hb, hlast]

theorem length_ofNat_le {n k : Nat} (h : n < 256 ^ k) : (ofNat n).length ≤ k := by
  cases hb : ofNat n with
  | nil => simp
  | cons x b =>
    have hx : x ≠ 0 := by simpa [hb] using head?_ofNat n
    have hle := pow_le_toNat (b := b) hx
    rw [← hb, toNat_ofNat] at hle
    have hlt : b.length < k := (Nat.pow_lt_pow_iff_right (by omega)).mp (hle.trans_lt h)
    simpa using Nat.succ_le_of_lt hlt

/-! ### Fixed width -/

theorem toNat_bigEndian (k n : Nat) : toNat (bigEndian k n) = n % 256 ^ k := by
  induction k generalizing n with
  | zero => simp [bigEndian, Nat.mod_one]
  | succ k ih =>
    rw [bigEndian, toNat_concat, ih, UInt8.toNat_ofNat', pow_succ 256 k,
      Nat.mul_comm (256 ^ k) 256, Nat.mod_mul]
    omega

theorem bigEndian_toNat (b : Bytes) : bigEndian b.length (toNat b) = b := by
  induction b using List.reverseRecOn with
  | nil => rfl
  | append_singleton b x ih =>
    have hx : x.toNat < 256 := x.toNat_lt
    have hdiv : (toNat b * 256 + x.toNat) / 256 = toNat b := by omega
    have hlast : UInt8.ofNat (toNat b * 256 + x.toNat) = x := by
      apply UInt8.toNat_inj.mp
      rw [UInt8.toNat_ofNat']
      omega
    rw [List.length_append, List.length_singleton, bigEndian, toNat_concat, hdiv, ih, hlast]

end Bytes

namespace Word

theorem toNat_ofBytes {b : Bytes} (h : b.length ≤ 32) : (ofBytes b).toNat = Bytes.toNat b := by
  have hlt : Bytes.toNat b < 2 ^ 256 :=
    calc Bytes.toNat b < 256 ^ b.length := Bytes.toNat_lt b
      _ ≤ 256 ^ 32 := Nat.pow_le_pow_right (by omega) h
      _ = 2 ^ 256 := by norm_num
  rw [ofBytes, BitVec.toNat_ofNat, Nat.mod_eq_of_lt hlt]

theorem add?_of_lt {a b : Word} (h : a.toNat + b.toNat < 2 ^ 256) : add? a b = some (a + b) :=
  if_neg (by simpa [BitVec.uaddOverflow] using h)

theorem add?_eq_none {a b : Word} (h : add? a b = none) : 2 ^ 256 ≤ a.toNat + b.toNat := by
  by_contra hlt
  rw [add?_of_lt (not_le.mp hlt)] at h
  cases h

theorem le_of_sub?_eq_some {a b c : Word} (h : sub? a b = some c) : b.toNat ≤ a.toNat := by
  by_contra hlt
  have hnone : sub? a b = none := if_pos (by simpa [BitVec.usubOverflow] using hlt)
  rw [hnone] at h
  cases h

theorem sub?_eq_none {a b : Word} (h : sub? a b = none) : a.toNat < b.toNat := by
  by_contra hle
  have hsome : sub? a b = some (a - b) := if_neg (by simpa [BitVec.usubOverflow] using hle)
  rw [hsome] at h
  cases h

theorem mul?_eq_none {a b : Word} (h : mul? a b = none) : 2 ^ 256 ≤ a.toNat * b.toNat := by
  by_contra hlt
  have hsome : mul? a b = some (a * b) := if_neg (by simpa [BitVec.umulOverflow] using hlt)
  rw [hsome] at h
  cases h

/-- The fixed-width form of a word reads back as the word. -/
@[simp] theorem ofHash_toHash (w : Word) : ofHash (toHash w) = w := by
  have hw : w.toNat < 256 ^ 32 := lt_of_lt_of_eq w.isLt (by norm_num)
  apply BitVec.eq_of_toNat_eq
  rw [ofHash, toNat_ofBytes (toHash w).length_eq.le, toHash, FixedBytes.ofNat,
    Bytes.toNat_bigEndian, Nat.mod_eq_of_lt hw]

theorem toHash_injective : Function.Injective toHash :=
  Function.LeftInverse.injective ofHash_toHash

/-- Every hash is the fixed-width form of a word. -/
@[simp] theorem toHash_ofHash (h : Hash) : toHash (ofHash h) = h := by
  have hbytes := Bytes.bigEndian_toNat h.bytes
  rw [h.length_eq] at hbytes
  apply FixedBytes.ext
  rw [toHash, ofHash, toNat_ofBytes h.length_eq.le]
  exact hbytes

end Word

end VectorReplay
