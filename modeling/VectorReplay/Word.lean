import VectorReplay.Bytes

/-!
256-bit words. The checked operations answer nothing when the exact result leaves the range.
-/
namespace VectorReplay

abbrev Word := BitVec 256

namespace Word

def ofBytes (b : Bytes) : Word :=
  BitVec.ofNat 256 (Bytes.toNat b)

/-- The fixed-width big-endian form. -/
def toHash (w : Word) : Hash :=
  FixedBytes.ofNat 32 w.toNat

def ofHash (h : Hash) : Word :=
  ofBytes h.bytes

def add? (a b : Word) : Option Word :=
  if a.uaddOverflow b then none else some (a + b)

def sub? (a b : Word) : Option Word :=
  if a.usubOverflow b then none else some (a - b)

def mul? (a b : Word) : Option Word :=
  if a.umulOverflow b then none else some (a * b)

/-- The low 64 bits. -/
def low64 (w : Word) : UInt64 :=
  UInt64.ofNat w.toNat

def decimal (w : Word) : String :=
  toString w.toNat

theorem add?_eq_some {a b c : Word} (h : add? a b = some c) : c.toNat = a.toNat + b.toNat := by
  simp only [add?, Option.ite_none_left_eq_some, Option.some.injEq] at h
  obtain ⟨hb, rfl⟩ := h
  exact BitVec.toNat_add_of_not_uaddOverflow hb

theorem sub?_eq_some {a b c : Word} (h : sub? a b = some c) : c.toNat = a.toNat - b.toNat := by
  simp only [sub?, Option.ite_none_left_eq_some, Option.some.injEq] at h
  obtain ⟨hb, rfl⟩ := h
  exact BitVec.toNat_sub_of_not_usubOverflow hb

theorem mul?_eq_some {a b c : Word} (h : mul? a b = some c) : c.toNat = a.toNat * b.toNat := by
  simp only [mul?, Option.ite_none_left_eq_some, Option.some.injEq] at h
  obtain ⟨hb, rfl⟩ := h
  exact BitVec.toNat_mul_of_not_umulOverflow hb

end Word

end VectorReplay
