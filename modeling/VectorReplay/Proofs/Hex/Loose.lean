import VectorReplay.Hex.Loose
import VectorReplay.Proofs.Hex

/-!
The reading of hexadecimal as nodes write it takes every marked spelling of a byte string back to the
bytes.
-/
namespace VectorReplay.Hex.Loose

/-- The two digit values of every byte. -/
def halves (b : Bytes) : List Nat :=
  b.flatMap fun x => [x.toNat / 16, x.toNat % 16]

theorem isBlank_of_value? {y : UInt8} {n : Nat} (h : value? y = some n) : isBlank y = false := by
  cases hblank : isBlank y with
  | false => rfl
  | true =>
    simp only [isBlank, Bool.or_eq_true, decide_eq_true_eq] at hblank
    rcases hblank with ((rfl | rfl) | rfl) | rfl <;> cases h

theorem nibbles_cons {y : UInt8} {n : Nat} (h : value? y = some n) (i : Nat) (b : Bytes) :
    nibbles i (y :: b) = (nibbles (i + 1) b).map (n :: ·) := by
  rw [nibbles, isBlank_of_value? h, h]
  cases nibbles (i + 1) b <;> rfl

theorem nibbles_of_spells {s : List Char} {b : Bytes} (h : Spells s b) (i : Nat) :
    nibbles i (Text.utf8 s) = .ok (halves b) := by
  induction b generalizing s i with
  | nil =>
    obtain rfl := spells_nil.mp h
    rfl
  | cons x b ih =>
    obtain ⟨high, low, rest, hutf, hhigh, hlow, hrest⟩ := utf8_of_spells h
    rw [hutf, nibbles_cons hhigh, nibbles_cons hlow, ih hrest]
    rfl

theorem join_halves (b : Bytes) : join (halves b) = b := by
  induction b with
  | nil => rfl
  | cons x b ih =>
    have hsplit : halves (x :: b) = x.toNat / 16 :: x.toNat % 16 :: halves b := rfl
    rw [hsplit, join, ofNat_halves, ih]

theorem group_halves (b : Bytes) : group false (halves b) = b := by
  cases b with
  | nil => rfl
  | cons x b => exact join_halves (x :: b)

/-- The case of letters does not count. -/
theorem decode_of_spells {s : List Char} {b : Bytes} (h : Spells s b) :
    decode (.exactly b.length) ("0x" ++ String.ofList s) = .ok b := by
  have hbody : unmark ("0x" ++ String.ofList s).toList = (s, 2) := by
    rw [toList_mark]
    rfl
  have hlength := (pairs_utf8 h 0).2
  have heven : (Text.utf8 s).length % 2 ≠ 1 := by omega
  have hadmits : (Expected.exactly b.length).admits (Text.utf8 s).length = true := by
    simpa [Expected.admits] using hlength
  unfold decode
  simp only [hbody, hadmits, if_true, nibbles_of_spells h, heven, decide_false]
  change Except.ok (group false (halves b)) = .ok b
  rw [group_halves]

end VectorReplay.Hex.Loose
