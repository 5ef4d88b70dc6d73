import VectorReplay.Hex.Integer
import VectorReplay.Proofs.Bytes
import VectorReplay.Proofs.Hex

/-!
Integers in hexadecimal: the shortest digits of a number are those of its shortest byte string, but for
one zero in front, and reading them gives the number back.
-/
namespace VectorReplay.Hex

/-! ### The shortest digits -/

theorem minimal_of_lt {n : Nat} (h : n < 16) : minimal n = [digit n] := by
  rw [minimal, if_pos h]

theorem minimal_of_le {n : Nat} (h : 16 ≤ n) : minimal n = minimal (n / 16) ++ [digit (n % 16)] := by
  rw [minimal, if_neg (Nat.not_lt.mpr h)]

theorem exists_digit_of_mem_minimal {n : Nat} {c : Char} (h : c ∈ minimal n) :
    ∃ k : Fin 16, c = digit k := by
  induction n using Nat.strongRecOn with
  | ind n ih =>
    by_cases hn : n < 16
    · rw [minimal_of_lt hn, List.mem_singleton] at h
      exact ⟨⟨n, hn⟩, h⟩
    · have hdiv : n / 16 < n := Nat.div_lt_self (by omega) (by omega)
      rw [minimal_of_le (Nat.not_lt.mp hn), List.mem_append, List.mem_singleton] at h
      rcases h with h | rfl
      · exact ih _ hdiv h
      · exact ⟨⟨n % 16, Nat.mod_lt _ (by omega)⟩, rfl⟩

theorem minimal_ne_nil (n : Nat) : minimal n ≠ [] := by
  rw [minimal]
  split <;> simp

theorem digit_ne_zero : ∀ n : Fin 16, n ≠ 0 → digit n ≠ '0' := by
  decide

theorem head?_minimal {n : Nat} (h : n ≠ 0) : (minimal n).head? ≠ some '0' := by
  induction n using Nat.strongRecOn with
  | ind n ih =>
    by_cases hn : n < 16
    · have hdigit := digit_ne_zero ⟨n, hn⟩ fun hz => h (congrArg Fin.val hz)
      simpa [minimal_of_lt hn] using hdigit
    · have hdiv : n / 16 < n := Nat.div_lt_self (by omega) (by omega)
      have hhead := ih _ hdiv (by omega)
      obtain ⟨c, s, hs⟩ := List.exists_cons_of_ne_nil (minimal_ne_nil (n / 16))
      rw [minimal_of_le (Nat.not_lt.mp hn), hs]
      rwa [hs] at hhead

theorem length_minimal_le {n k : Nat} (hk : 0 < k) (h : n < 16 ^ k) : (minimal n).length ≤ k := by
  induction k generalizing n with
  | zero => omega
  | succ k ih =>
    by_cases hn : n < 16
    · rw [minimal_of_lt hn, List.length_singleton]
      omega
    · have hpow : n / 16 < 16 ^ k := by
        rw [pow_succ] at h
        exact Nat.div_lt_of_lt_mul (by omega)
      have hpos : 0 < k := by
        rw [Nat.pos_iff_ne_zero]
        rintro rfl
        simp at h
        omega
      have hle := ih hpos hpow
      rw [minimal_of_le (Nat.not_lt.mp hn), List.length_append, List.length_singleton]
      omega

/-! ### Even numbers of digits -/

/-- One zero more if the number of digits is odd. -/
def even (s : List Char) : List Char :=
  if s.length % 2 = 1 then '0' :: s else s

theorem digits_append (a b : Bytes) : digits (a ++ b) = digits a ++ digits b :=
  List.flatMap_append

theorem digits_last (n : Nat) :
    digits [UInt8.ofNat n] = [digit (n / 16 % 16), digit (n % 16)] := by
  have hhigh : n % 256 / 16 = n / 16 % 16 := by omega
  have hlow : n % 256 % 16 = n % 16 := by omega
  simp [digits, UInt8.toNat_ofNat', hhigh, hlow]

theorem digits_ofNat {n : Nat} (h : n ≠ 0) : digits (Bytes.ofNat n) = even (minimal n) := by
  induction n using Nat.strongRecOn with
  | ind n ih =>
    rw [Bytes.ofNat_pos h, digits_append, digits_last]
    by_cases hbyte : n < 256
    · have hquot : n / 256 = 0 := by omega
      rw [hquot, Bytes.ofNat_zero]
      by_cases hn : n < 16
      · have hdiv : n / 16 % 16 = 0 := by omega
        have hmod : n % 16 = n := by omega
        rw [minimal_of_lt hn, hdiv, hmod]
        rfl
      · have hdiv : n / 16 < 16 := by omega
        have hmod : n / 16 % 16 = n / 16 := by omega
        rw [minimal_of_le (Nat.not_lt.mp hn), minimal_of_lt hdiv, hmod]
        simp [even, digits]
    · have hdiv : n / 256 < n := Nat.div_lt_self (by omega) (by omega)
      have hstep : minimal n = minimal (n / 256) ++ [digit (n / 16 % 16), digit (n % 16)] := by
        have hquot : n / 16 / 16 = n / 256 := by omega
        rw [minimal_of_le (by omega), minimal_of_le (by omega), hquot, List.append_assoc]
        rfl
      rw [ih _ hdiv (by omega), hstep]
      unfold even
      simp only [List.length_append, List.length_cons, List.length_nil, Nat.add_mod_right]
      split <;> rfl

/-! ### Reading -/

theorem utf8_of_digits {s : List Char} (h : ∀ c ∈ s, ∃ n : Fin 16, c = digit n) :
    Text.utf8 s = s.map fun c => UInt8.ofNat c.toNat := by
  induction s with
  | nil => rfl
  | cons c s ih =>
    obtain ⟨n, rfl⟩ := h c (by simp)
    rw [utf8_of_lower n.isLt (toLower_digit n), ih fun d hd => h d (by simp [hd]), List.map_cons]

theorem evened_utf8 {s : List Char} (h : ∀ c ∈ s, ∃ n : Fin 16, c = digit n) :
    evened (Text.utf8 s) = Text.utf8 (even s) := by
  have hlength : (Text.utf8 s).length = s.length := by rw [utf8_of_digits h, List.length_map]
  unfold evened even
  rw [hlength]
  split <;> rfl

theorem integerOfDigits_minimal {w : Word} (h : w.toNat ≠ 0) :
    integerOfDigits (Text.utf8 (minimal w.toNat)) = .ok w := by
  have hdigits : ∀ c ∈ minimal w.toNat, ∃ n : Fin 16, c = digit n :=
    fun c hc => exists_digit_of_mem_minimal hc
  have hlength : (Text.utf8 (minimal w.toNat)).length ≤ 64 := by
    have hw : w.toNat < 16 ^ 64 := lt_of_lt_of_eq w.isLt (by norm_num)
    rw [utf8_of_digits hdigits, List.length_map]
    exact length_minimal_le (by omega) hw
  have hword : Word.ofBytes (Bytes.ofNat w.toNat) = w := by
    rw [Word.ofBytes, Bytes.toNat_ofNat, BitVec.ofNat_toNat, BitVec.setWidth_eq]
  rw [integerOfDigits, if_neg (by omega), evened_utf8 hdigits, ← digits_ofNat h,
    decodeBytes_of_spells (spells_digits _)]
  exact congrArg Except.ok hword

/-- The shortest form of a word reads back as the word. -/
theorem parseWord_wordText (w : Word) : parseWord (wordText w) = .ok w := by
  have htext : (wordText w).toList = '0' :: 'x' :: minimal w.toNat := toList_mark _
  have hsignificant : significant (wordText w).toList = (minimal w.toNat).dropWhile (· = '0') := by
    rw [htext]
    rfl
  rw [parseWord, hsignificant]
  by_cases h : w.toNat = 0
  · obtain rfl : w = 0 := BitVec.eq_of_toNat_eq h
    have hzero : minimal (BitVec.toNat (0 : Word)) = ['0'] := minimal_of_lt (by decide)
    rw [hzero]
    rfl
  · have hkept : (minimal w.toNat).dropWhile (· = '0') = minimal w.toNat := by
      have hhead := head?_minimal h
      cases hs : minimal w.toNat with
      | nil => rfl
      | cons c s =>
        rw [hs] at hhead
        exact List.dropWhile_cons_of_neg (by simpa using hhead)
    rw [hkept, integerOfDigits_minimal h]

theorem wordText_injective : Function.Injective wordText := by
  intro v w h
  have hv := parseWord_wordText v
  rw [h, parseWord_wordText w] at hv
  exact (Except.ok.inj hv).symm

end VectorReplay.Hex
