import Mathlib.Data.List.Lex
import Mathlib.Tactic.Ring
import VectorReplay.Text.Utf8

/-!
The order of texts is the order of their UTF-8 bytes. A character is a lead byte and digits to the base
of 64; the lead bytes of longer sequences are above those of shorter ones, and sequences of the same
length are in the order of their numbers.
-/
namespace VectorReplay.Text

/-- Ascending order of bytes: the first byte that differs decides, and what ends earlier comes first. -/
def Ascends (a b : Bytes) : Prop := a = b ∨ List.Lex (· < ·) a b

/-! ### Characters -/

/-- A number as a lead byte, raised by a mark, and as many digits to the base of 64. -/
def spread (mark : Nat) : (digits : Nat) → Nat → Bytes
  | 0, v => [UInt8.ofNat (v + mark)]
  | digits + 1, v => spread mark digits (v / 64) ++ [UInt8.ofNat (v % 64 + 128)]

/-- How many bytes follow the lead byte of a character. -/
def digits (v : Nat) : Nat :=
  if v ≤ 0x7F then 0 else if v ≤ 0x7FF then 1 else if v ≤ 0xFFFF then 2 else 3

def mark : (digits : Nat) → Nat
  | 0 => 0
  | 1 => 0xC0
  | 2 => 0xE0
  | _ => 0xF0

theorem toNat_lt_of_char (c : Char) : c.val.toNat < 0x110000 := by
  rcases c.valid with h | ⟨-, h⟩
  · exact Nat.lt_trans h (by decide)
  · exact h

theorem utf8EncodeChar_eq_spread (c : Char) : String.utf8EncodeChar c =
    spread (mark (digits c.val.toNat)) (digits c.val.toNat) c.val.toNat := by
  have hlt := toNat_lt_of_char c
  simp only [String.utf8EncodeChar]
  generalize c.val.toNat = v at *
  unfold digits
  split
  case isTrue => rfl
  case isFalse =>
    split
    case isTrue =>
      have hlead : v / 64 % 32 = v / 64 := by omega
      rw [hlead]
      rfl
    case isFalse =>
      split
      case isTrue =>
        have hlead : v / 4096 % 16 = v / 64 / 64 := by omega
        rw [hlead]
        rfl
      case isFalse =>
        have hlead : v / 262144 % 8 = v / 64 / 64 / 64 := by omega
        have hdigit : v / 4096 = v / 64 / 64 := by omega
        rw [hlead, hdigit]
        rfl

theorem ofNat_lt_ofNat {a b : Nat} (h : a < b) (hb : b < 256) : UInt8.ofNat a < UInt8.ofNat b := by
  rw [UInt8.lt_iff_toNat_lt, UInt8.toNat_ofNat', UInt8.toNat_ofNat']
  omega

/-- The lead byte decides first. -/
theorem exists_spread_eq_cons (mark : Nat) (n v : Nat) :
    ∃ rest, spread mark n v = UInt8.ofNat (v / 64 ^ n + mark) :: rest := by
  induction n generalizing v with
  | zero => exact ⟨[], by simp [spread]⟩
  | succ n ih =>
    obtain ⟨rest, hrest⟩ := ih (v / 64)
    refine ⟨rest ++ [UInt8.ofNat (v % 64 + 128)], ?_⟩
    rw [spread, hrest, Nat.div_div_eq_div_mul, Nat.pow_succ']
    rfl

/-- Sequences of the same length are in the order of their numbers, whatever follows them. -/
theorem spread_append_lt {mark n v w : Nat} (h : v < w) (hlead : w / 64 ^ n + mark < 256)
    (s t : Bytes) : List.Lex (· < ·) (spread mark n v ++ s) (spread mark n w ++ t) := by
  induction n generalizing v w s t with
  | zero =>
    rw [Nat.pow_zero, Nat.div_one] at hlead
    exact .rel (ofNat_lt_ofNat (by omega) hlead)
  | succ n ih =>
    rw [Nat.pow_succ', ← Nat.div_div_eq_div_mul] at hlead
    rw [spread, spread, List.append_assoc, List.append_assoc]
    rcases Nat.lt_or_ge (v / 64) (w / 64) with hhigh | hhigh
    · exact ih hhigh hlead _ _
    · have hsame : v / 64 = w / 64 := by omega
      rw [hsame]
      exact List.Lex.append_left _ (.rel (ofNat_lt_ofNat (by omega) (by omega))) _

/-- The lead byte of a longer sequence is above that of a shorter one. -/
theorem lead_lt {v w : Nat} (h : digits v < digits w) (hw : w < 0x110000) :
    v / 64 ^ digits v + mark (digits v) < w / 64 ^ digits w + mark (digits w) := by
  unfold digits at h ⊢
  split_ifs at h ⊢ <;> simp only [mark, Nat.reducePow] <;> omega

theorem lead_lt_256 {w : Nat} (hw : w < 0x110000) : w / 64 ^ digits w + mark (digits w) < 256 := by
  unfold digits
  split_ifs <;> simp only [mark, Nat.reducePow] <;> omega

theorem utf8EncodeChar_append_lt {c d : Char} (h : c < d) (s t : Bytes) :
    List.Lex (· < ·) (String.utf8EncodeChar c ++ s) (String.utf8EncodeChar d ++ t) := by
  have hlt : c.val.toNat < d.val.toNat := h
  have hd := toNat_lt_of_char d
  rw [utf8EncodeChar_eq_spread, utf8EncodeChar_eq_spread]
  generalize c.val.toNat = v at *
  generalize d.val.toNat = w at *
  rcases Nat.lt_trichotomy (digits v) (digits w) with hdigits | hdigits | hdigits
  · obtain ⟨r, hr⟩ := exists_spread_eq_cons (mark (digits v)) (digits v) v
    obtain ⟨r', hr'⟩ := exists_spread_eq_cons (mark (digits w)) (digits w) w
    rw [hr, hr']
    exact .rel (ofNat_lt_ofNat (lead_lt hdigits hd) (lead_lt_256 hd))
  · rw [hdigits]
    exact spread_append_lt hlt (lead_lt_256 hd) s t
  · exfalso
    unfold digits at hdigits
    split_ifs at hdigits <;> omega

theorem utf8EncodeChar_ne_nil (c : Char) : String.utf8EncodeChar c ≠ [] := by
  obtain ⟨rest, hrest⟩ := exists_spread_eq_cons (mark (digits c.val.toNat)) (digits c.val.toNat)
    c.val.toNat
  rw [utf8EncodeChar_eq_spread, hrest]
  exact List.cons_ne_nil _ _

/-! ### Texts -/

theorem lex_utf8 {s t : List Char} (h : List.Lex (· < ·) s t) :
    List.Lex (· < ·) (utf8 s) (utf8 t) := by
  induction h with
  | @nil c t =>
    obtain ⟨b, rest, hcons⟩ := List.exists_cons_of_ne_nil (utf8EncodeChar_ne_nil c)
    rw [utf8, utf8, List.flatMap_cons, hcons]
    exact .nil
  | cons _ ih => exact List.Lex.append_left _ ih _
  | rel hcd => exact utf8EncodeChar_append_lt hcd _ _

theorem ascends_utf8 {a b : String} (h : a ≤ b) : Ascends (utf8 a.toList) (utf8 b.toList) := by
  by_cases hlt : a < b
  · exact .inr (lex_utf8 (List.lex_lt.mpr (String.lt_iff.mp hlt)))
  · rw [String.le_antisymm h (String.not_lt.mp hlt)]
    exact .inl rfl

end VectorReplay.Text
