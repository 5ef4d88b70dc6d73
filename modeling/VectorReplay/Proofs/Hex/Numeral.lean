import Mathlib.Data.List.Forall2
import Mathlib.Data.Nat.Digits.Defs
import VectorReplay.Proofs.Computation
import VectorReplay.Proofs.Hex.Integer
import VectorReplay.Proofs.Text.Utf8

/-!
The grammar of hexadecimal integers: an optional mark and any number of digits, of either case. A text
reads as a word exactly if it is of this grammar and at most 64 of its digits count; the word is then
the value of the digits to the base of sixteen.
-/
namespace VectorReplay.Hex

/-- A digit of either case and its value. -/
structure IsDigit (c : Char) (n : Nat) : Prop where
  lt : n < 16
  spelled : c.toLower = digit n

/-- A text of the grammar, with the values of its digits from left to right. -/
inductive Numeral : (s : List Char) → (ns : List Nat) → Prop
  | of {mark ds : List Char} {ns : List Nat} (hm : IsMark mark) (hd : List.Forall₂ IsDigit ds ns) :
    Numeral (mark ++ ds) ns

/-! ### Values -/

theorem ofDigits_cons_reverse (n : Nat) (ns : List Nat) : Nat.ofDigits 16 (n :: ns).reverse =
    n * 16 ^ ns.length + Nat.ofDigits 16 ns.reverse := by
  rw [List.reverse_cons, Nat.ofDigits_append, Nat.ofDigits_singleton, List.length_reverse]
  ring

/-- Zeros in front do not count. -/
theorem ofDigits_dropWhile (ns : List Nat) :
    Nat.ofDigits 16 (ns.dropWhile (· = 0)).reverse = Nat.ofDigits 16 ns.reverse := by
  induction ns with
  | nil => rfl
  | cons n ns ih =>
    by_cases hn : n = 0
    · rw [List.dropWhile_cons_of_pos (by simpa using hn), ih, ofDigits_cons_reverse, hn, Nat.zero_mul,
        Nat.zero_add]
    · rw [List.dropWhile_cons_of_neg (by simpa using hn)]

/-! ### Bytes -/

/-- Bytes that are digits, with their values. -/
abbrev Values : (b : Bytes) → (ns : List Nat) → Prop :=
  List.Forall₂ fun x n => value? x = some n

theorem bounds_of_value? {x : UInt8} {n : Nat} (h : value? x = some n) : n < 16 ∧ x.toNat ≤ 102 := by
  simp only [value?, Bool.and_eq_true, decide_eq_true_eq, UInt8.le_iff_toNat_le,
    UInt8.reduceToNat] at h
  split_ifs at h <;> cases h <;> omega

/-- Two digits in front are one byte in front. -/
theorem toNat_pair {n m : Nat} (hn : n < 16) (hm : m < 16) {bytes : Bytes} {ns : List Nat}
    (hlength : ns.length = 2 * bytes.length)
    (hvalue : Bytes.toNat bytes = Nat.ofDigits 16 ns.reverse) :
    Bytes.toNat (UInt8.ofNat (16 * n + m) :: bytes) = Nat.ofDigits 16 (n :: m :: ns).reverse := by
  have hfirst : Bytes.toNat [UInt8.ofNat (16 * n + m)] = 16 * n + m := by
    simp only [Bytes.toNat, List.foldl_cons, List.foldl_nil, UInt8.toNat_ofNat']
    omega
  have hpow : 256 ^ bytes.length = 16 ^ ns.length := by
    rw [hlength, pow_mul, show 16 ^ 2 = 256 from rfl]
  have hsplit := Bytes.toNat_append [UInt8.ofNat (16 * n + m)] bytes
  rw [List.singleton_append, hfirst, hvalue, hpow] at hsplit
  rw [hsplit, ofDigits_cons_reverse, ofDigits_cons_reverse, List.length_cons]
  ring

/-- Pairs of digits are bytes of the same value. -/
theorem pairs_of_values {b : Bytes} {ns : List Nat} (h : Values b ns) (heven : b.length % 2 = 0)
    (i : Nat) : ∃ bytes, pairs i b = .ok bytes ∧ b.length = 2 * bytes.length ∧
      Bytes.toNat bytes = Nat.ofDigits 16 ns.reverse := by
  fun_induction pairs i b generalizing ns with
  | case1 =>
    cases h
    exact ⟨[], rfl, rfl, rfl⟩
  | case2 => simp at heven
  | case3 i x y b hx =>
    obtain ⟨n, -, hn, -, -⟩ := List.forall₂_cons_left_iff.mp h
    rw [hx] at hn
    cases hn
  | case4 i x y b n hy hx =>
    obtain ⟨-, ns', -, htail, -⟩ := List.forall₂_cons_left_iff.mp h
    obtain ⟨m, -, hm, -, -⟩ := List.forall₂_cons_left_iff.mp htail
    rw [hy] at hm
    cases hm
  | case5 i x y b n m hy hx ih =>
    obtain ⟨n', ns', hn, htail, rfl⟩ := List.forall₂_cons_left_iff.mp h
    obtain ⟨m', ns, hm, hrest, rfl⟩ := List.forall₂_cons_left_iff.mp htail
    obtain rfl : n = n' := Option.some.inj (hx.symm.trans hn)
    obtain rfl : m = m' := Option.some.inj (hy.symm.trans hm)
    have hrestEven : b.length % 2 = 0 := by
      simp only [List.length_cons] at heven
      omega
    obtain ⟨bytes, hbytes, hlength, hvalue⟩ := ih hrest hrestEven
    refine ⟨UInt8.ofNat (16 * n + m) :: bytes, by rw [hbytes]; rfl, ?length, ?value⟩
    case length =>
      simp only [List.length_cons]
      omega
    case value =>
      have hcount : ns.length = 2 * bytes.length := hrest.length_eq.symm.trans hlength
      exact toNat_pair (bounds_of_value? hx).1 (bounds_of_value? hy).1 hcount hvalue

theorem exists_values_of_pairs {i : Nat} {b bytes : Bytes} (h : pairs i b = .ok bytes) :
    ∃ ns, Values b ns := by
  fun_induction pairs i b generalizing bytes with
  | case1 => exact ⟨[], .nil⟩
  | case2 => cases h
  | case3 => cases h
  | case4 => cases h
  | case5 i x y b n m hy hx ih =>
    obtain ⟨rest, hrest, -⟩ := bind_eq_ok.mp h
    obtain ⟨ns, hns⟩ := ih hrest
    exact ⟨n :: m :: ns, .cons hx (.cons hy hns)⟩

/-- The zero that evens the number of digits changes no value. -/
theorem values_evened {b : Bytes} {ns : List Nat} (h : Values b ns) : ∃ ns', Values (evened b) ns' ∧
    Nat.ofDigits 16 ns'.reverse = Nat.ofDigits 16 ns.reverse := by
  unfold evened
  split
  · refine ⟨0 :: ns, .cons rfl h, ?_⟩
    rw [ofDigits_cons_reverse, Nat.zero_mul, Nat.zero_add]
  · exact ⟨ns, h, rfl⟩

theorem exists_values_of_evened {b : Bytes} {ns : List Nat} (h : Values (evened b) ns) :
    ∃ ns, Values b ns := by
  unfold evened at h
  split at h
  · obtain ⟨-, ns', -, h, -⟩ := List.forall₂_cons_left_iff.mp h
    exact ⟨ns', h⟩
  · exact ⟨ns, h⟩

theorem length_evened (b : Bytes) :
    (evened b).length % 2 = 0 ∧ (b.length ≤ 64 → (evened b).length ≤ 64) := by
  unfold evened
  split
  · rw [List.length_cons]
    omega
  · omega

theorem integerOfDigits_of_values {b : Bytes} {ns : List Nat} (h : Values b ns)
    (hlength : b.length ≤ 64) : ∃ w, integerOfDigits b = .ok w ∧
      w.toNat = Nat.ofDigits 16 ns.reverse := by
  obtain ⟨heven, hle⟩ := length_evened b
  obtain ⟨ns', hvalues, hsame⟩ := values_evened h
  obtain ⟨bytes, hbytes, hcount, hvalue⟩ := pairs_of_values hvalues heven 0
  refine ⟨Word.ofBytes bytes, ?_, ?_⟩
  · rw [integerOfDigits, if_neg (by omega), decodeBytes, if_neg (by omega), hbytes]
    rfl
  · have h32 : bytes.length ≤ 32 := by
      have := hle hlength
      omega
    rw [Word.toNat_ofBytes h32, hvalue, hsame]

theorem values_of_integerOfDigits {b : Bytes} {w : Word} (h : integerOfDigits b = .ok w) :
    b.length ≤ 64 ∧ ∃ ns, Values b ns := by
  unfold integerOfDigits decodeBytes at h
  split_ifs at h with hlong hodd
  · cases h
  · obtain ⟨bytes, hbytes, -⟩ := bind_eq_ok.mp h
    obtain ⟨_, hevened⟩ := exists_values_of_pairs hbytes
    exact ⟨Nat.not_lt.mp hlong, exists_values_of_evened hevened⟩

/-! ### Characters -/

theorem isDigit_of_value? : ∀ k : Fin 128, ∀ n ∈ value? (UInt8.ofNat k),
    (Char.ofNat k).toLower = digit n := by
  decide +kernel

/-- A lead byte below `0x80` is the whole character; those of longer characters are above all letters. -/
theorem eq_of_lead {c : Char} {x : UInt8} {rest : Bytes}
    (h : String.utf8EncodeChar c = x :: rest) (hx : x.toNat < 128) :
    c.toNat < 128 ∧ x = UInt8.ofNat c.toNat ∧ rest = [] := by
  by_cases hc : c.toNat < 128
  · rw [utf8EncodeChar_of_lt hc] at h
    cases h
    exact ⟨hc, rfl, rfl⟩
  · exfalso
    have hdigits : 1 ≤ Text.digits c.val.toNat := by
      have hval : ¬ c.val.toNat ≤ 0x7F := fun hle => hc (Nat.lt_succ_of_le hle)
      unfold Text.digits
      rw [if_neg hval]
      split_ifs <;> omega
    have hmark : 0xC0 ≤ Text.mark (Text.digits c.val.toNat) := by
      unfold Text.mark
      split <;> omega
    have hlead := Text.lead_lt_256 (Text.toNat_lt_of_char c)
    obtain ⟨tail, htail⟩ := Text.exists_spread_eq_cons (Text.mark (Text.digits c.val.toNat))
      (Text.digits c.val.toNat) c.val.toNat
    rw [Text.utf8EncodeChar_eq_spread, htail] at h
    cases h
    rw [UInt8.toNat_ofNat', Nat.mod_eq_of_lt hlead] at hx
    exact absurd ((hmark.trans (Nat.le_add_left _ _)).trans_lt hx) (by decide)

/-- A digit is one byte, and no byte of another character is a digit. -/
theorem isDigit_of_utf8 {c : Char} {x : UInt8} {rest : Bytes} {n : Nat}
    (h : String.utf8EncodeChar c = x :: rest) (hx : value? x = some n) :
    IsDigit c n ∧ rest = [] := by
  obtain ⟨hlt, hle⟩ := bounds_of_value? hx
  obtain ⟨hc, rfl, rfl⟩ := eq_of_lead h (by omega)
  have hdigit := isDigit_of_value? ⟨c.toNat, hc⟩ n hx
  rw [show Char.ofNat c.toNat = c from Char.ofNat_toNat c] at hdigit
  exact ⟨⟨hlt, hdigit⟩, rfl⟩

/-- The bytes of a text are digits exactly if its characters are. -/
theorem values_utf8_iff {s : List Char} {ns : List Nat} :
    Values (Text.utf8 s) ns ↔ List.Forall₂ IsDigit s ns := by
  induction s generalizing ns with
  | nil => exact ⟨fun h => by cases h; exact .nil, fun h => by cases h; exact .nil⟩
  | cons c s ih =>
    have hcons : Text.utf8 (c :: s) = String.utf8EncodeChar c ++ Text.utf8 s := rfl
    constructor
    · intro h
      obtain ⟨x, rest, hc⟩ := List.exists_cons_of_ne_nil (Text.utf8EncodeChar_ne_nil c)
      rw [hcons, hc, List.cons_append] at h
      obtain ⟨n, ns', hx, hvalues, rfl⟩ := List.forall₂_cons_left_iff.mp h
      obtain ⟨hdigit, rfl⟩ := isDigit_of_utf8 hc hx
      exact .cons hdigit (ih.mp hvalues)
    · intro h
      obtain ⟨n, ns', hdigit, hdigits, rfl⟩ := List.forall₂_cons_left_iff.mp h
      obtain ⟨hbyte, hvalue⟩ := byte_of_lower hdigit.lt hdigit.spelled
      rw [hcons, hbyte]
      exact .cons hvalue (ih.mpr hdigits)

/-! ### Marks and zeros -/

theorem IsDigit.ne_mark {c : Char} {n : Nat} (h : IsDigit c n) : c ≠ 'x' ∧ c ≠ 'X' := by
  have hvalue := (byte_of_lower h.lt h.spelled).2
  constructor <;> rintro rfl <;> simp [value?] at hvalue

theorem not_mem_of_digits {ds : List Char} {ns : List Nat} (h : List.Forall₂ IsDigit ds ns) :
    'x' ∉ ds ∧ 'X' ∉ ds := by
  induction h with
  | nil => simp
  | cons hdigit _ ih => simp [ih, hdigit.ne_mark.1.symm, hdigit.ne_mark.2.symm]

theorem eq_zero_of_toLower : ∀ k : Fin 128, (Char.ofNat k).toLower = '0' → Char.ofNat k = '0' := by
  decide +kernel

/-- Zero is the only digit of its value. -/
theorem IsDigit.eq_zero_iff {c : Char} {n : Nat} (h : IsDigit c n) : c = '0' ↔ n = 0 := by
  constructor
  · rintro rfl
    exact (Option.some.inj (byte_of_lower h.lt h.spelled).2).symm
  · rintro rfl
    have hzero : c.toLower = '0' := h.spelled
    have hlt : c.toNat < 128 := by
      have hle := toNat_le_toLower c
      rw [hzero] at hle
      exact Nat.lt_of_le_of_lt hle (by decide)
    have hofNat : Char.ofNat c.toNat = c := Char.ofNat_toNat c
    simpa only [hofNat] using eq_zero_of_toLower ⟨c.toNat, hlt⟩ (by simpa only [hofNat] using hzero)

/-- The digits that count are the values that count. -/
theorem digits_dropWhile {ds : List Char} {ns : List Nat} (h : List.Forall₂ IsDigit ds ns) :
    List.Forall₂ IsDigit (ds.dropWhile (· = '0')) (ns.dropWhile (· = 0)) := by
  induction h with
  | nil => exact .nil
  | @cons c n ds ns hdigit hrest ih =>
    by_cases hc : c = '0'
    · have hn : n = 0 := hdigit.eq_zero_iff.mp hc
      rwa [List.dropWhile_cons_of_pos (by simpa using hc),
        List.dropWhile_cons_of_pos (by simpa using hn)]
    · have hn : n ≠ 0 := fun hn => hc (hdigit.eq_zero_iff.mpr hn)
      rw [List.dropWhile_cons_of_neg (by simpa using hc),
        List.dropWhile_cons_of_neg (by simpa using hn)]
      exact .cons hdigit hrest

/-- Zeros in front of digits are digits. -/
theorem exists_digits_of_dropWhile {ds : List Char} {ns : List Nat}
    (h : List.Forall₂ IsDigit (ds.dropWhile (· = '0')) ns) :
    ∃ ns', List.Forall₂ IsDigit ds ns' := by
  induction ds with
  | nil => exact ⟨[], .nil⟩
  | cons c ds ih =>
    by_cases hc : c = '0'
    · rw [List.dropWhile_cons_of_pos (by simpa using hc)] at h
      obtain ⟨ns', hns'⟩ := ih h
      exact ⟨0 :: ns', .cons ⟨by omega, by rw [hc]; rfl⟩ hns'⟩
    · rw [List.dropWhile_cons_of_neg (by simpa using hc)] at h
      exact ⟨ns, h⟩

theorem exists_mark (s : List Char) : ∃ mark, IsMark mark ∧ s = mark ++ unmark s := by
  unfold unmark
  split
  · exact ⟨['0', 'x'], .inr (.inl rfl), rfl⟩
  · exact ⟨['0', 'X'], .inr (.inr rfl), rfl⟩
  · exact ⟨[], .inl rfl, rfl⟩

/-- Without a mark in it, a text is not taken for a marked one. -/
theorem unmark_of_mark {mark s : List Char} (hm : IsMark mark)
    (h : mark = [] → 'x' ∉ s ∧ 'X' ∉ s) : unmark (mark ++ s) = s := by
  rcases hm with rfl | rfl | rfl
  · obtain ⟨hx, hX⟩ := h rfl
    rw [List.nil_append]
    unfold unmark
    split
    · simp at hx
    · simp at hX
    · rfl
  · rfl
  · rfl

/-! ### Reading -/

/-- The digits that count decide alone, but for the message. -/
theorem toOption_parseWord (s : String) : (parseWord s).toOption =
    (integerOfDigits (Text.utf8 (significant s.toList))).toOption := by
  unfold parseWord
  cases integerOfDigits (Text.utf8 (significant s.toList)) <;> rfl

theorem parseWord_eq_ok {s : String} {w : Word} : parseWord s = .ok w ↔
    integerOfDigits (Text.utf8 (significant s.toList)) = .ok w := by
  unfold parseWord
  cases integerOfDigits (Text.utf8 (significant s.toList)) <;> simp

theorem significant_of_mark {mark s : List Char} (hm : IsMark mark)
    (h : mark = [] → 'x' ∉ s ∧ 'X' ∉ s) : significant (mark ++ s) = s.dropWhile (· = '0') := by
  rw [significant, unmark_of_mark hm h]

/-- A text of the grammar has one sequence of digits. -/
theorem Numeral.digits {s : List Char} {ns : List Nat} (h : Numeral s ns) :
    List.Forall₂ IsDigit (unmark s) ns := by
  obtain ⟨hm, hdigits⟩ := h
  rwa [unmark_of_mark hm fun _ => not_mem_of_digits hdigits]

theorem Numeral.values {s : List Char} {ns : List Nat} (h : Numeral s ns) :
    Values (Text.utf8 (significant s)) (ns.dropWhile (· = 0)) :=
  values_utf8_iff.mpr (digits_dropWhile h.digits)

theorem exists_parseWord {s : String} {ns : List Nat} (h : Numeral s.toList ns)
    (hlength : (ns.dropWhile (· = 0)).length ≤ 64) :
    ∃ w, parseWord s = .ok w ∧ w.toNat = Nat.ofDigits 16 ns.reverse := by
  have hbytes : (Text.utf8 (significant s.toList)).length ≤ 64 := by
    rwa [h.values.length_eq]
  obtain ⟨w, hw, hvalue⟩ := integerOfDigits_of_values h.values hbytes
  exact ⟨w, parseWord_eq_ok.mpr hw, by rw [hvalue, ofDigits_dropWhile]⟩

theorem exists_numeral {s : String} {w : Word} (h : parseWord s = .ok w) :
    ∃ ns, Numeral s.toList ns ∧ (ns.dropWhile (· = 0)).length ≤ 64 := by
  obtain ⟨hlength, _, hvalues⟩ := values_of_integerOfDigits (parseWord_eq_ok.mp h)
  obtain ⟨ns, hdigits⟩ := exists_digits_of_dropWhile (values_utf8_iff.mp hvalues)
  obtain ⟨mark, hm, hs⟩ := exists_mark s.toList
  have hnumeral : Numeral s.toList ns := hs ▸ .of hm hdigits
  exact ⟨ns, hnumeral, by rwa [← hnumeral.values.length_eq]⟩

/-- A text of the grammar with at most 64 digits that count. -/
def IsInteger (s : String) : Prop :=
  ∃ ns, Numeral s.toList ns ∧ (ns.dropWhile (· = 0)).length ≤ 64

theorem isInteger_iff {s : String} : IsInteger s ↔ ∃ w, parseWord s = .ok w := by
  constructor
  · rintro ⟨ns, hnumeral, hlength⟩
    obtain ⟨w, hw, -⟩ := exists_parseWord hnumeral hlength
    exact ⟨w, hw⟩
  · rintro ⟨w, hw⟩
    exact exists_numeral hw

/-- Zeros behind a mark change nothing but the message. -/
theorem toOption_parseWord_zeros {mark s : List Char} (hm : IsMark mark)
    (h : mark = [] → 'x' ∉ s ∧ 'X' ∉ s) (k : Nat) :
    (parseWord (String.ofList (mark ++ (List.replicate k '0' ++ s)))).toOption =
      (parseWord (String.ofList (mark ++ s))).toOption := by
  have hzeros : mark = [] → 'x' ∉ List.replicate k '0' ++ s ∧ 'X' ∉ List.replicate k '0' ++ s := by
    intro hnil
    simpa using h hnil
  have hdropped : (List.replicate k '0' ++ s).dropWhile (· = '0') = s.dropWhile (· = '0') := by
    rw [List.dropWhile_append_of_pos]
    simp
  rw [toOption_parseWord, toOption_parseWord, String.toList_ofList, String.toList_ofList,
    significant_of_mark hm hzeros, significant_of_mark hm h, hdropped]

/-- What is read is the grammar, with the value of the digits. Zeros behind the mark do not count, and
the shortest form of every word reads back. -/
theorem parseWord_numerals :
    (∀ s, (∃ w, parseWord s = .ok w) ↔
      ∃ ns, Numeral s.toList ns ∧ (ns.dropWhile (· = 0)).length ≤ 64) ∧
    (∀ s ns w, Numeral s.toList ns → parseWord s = .ok w →
      w.toNat = Nat.ofDigits 16 ns.reverse) ∧
    (∀ mark s k, IsMark mark → (mark = [] → 'x' ∉ s ∧ 'X' ∉ s) →
      (parseWord (String.ofList (mark ++ (List.replicate k '0' ++ s)))).toOption =
        (parseWord (String.ofList (mark ++ s))).toOption) ∧
    ∀ w, parseWord (wordText w) = .ok w := by
  refine ⟨fun s => isInteger_iff.symm, ?value, fun mark s k hm h => ?zeros, parseWord_wordText⟩
  case value =>
    intro s ns w hnumeral hw
    have hlength := (values_of_integerOfDigits (parseWord_eq_ok.mp hw)).1
    rw [hnumeral.values.length_eq] at hlength
    obtain ⟨w', hw', hvalue⟩ := exists_parseWord hnumeral hlength
    obtain rfl : w = w' := Except.ok.inj (hw.symm.trans hw')
    exact hvalue
  case zeros => exact toOption_parseWord_zeros hm h k

/-- Zeros between the mark and digits of both cases. -/
theorem parseWord_numerals_padded : Numeral "0X00aB".toList [0, 0, 10, 11] ∧
    (∃ w, parseWord "0X00aB" = .ok w ∧ w.toNat = 171) ∧ IsMark ['0', 'X'] ∧
    (parseWord (String.ofList (['0', 'X'] ++ (List.replicate 80 '0' ++ ['a', 'B'])))).toOption =
      (parseWord (String.ofList (['0', 'X'] ++ ['a', 'B']))).toOption := by
  have mark : IsMark ['0', 'X'] := .inr (.inr rfl)
  have digits : List.Forall₂ IsDigit ['0', '0', 'a', 'B'] [0, 0, 10, 11] :=
    .cons ⟨by decide, by decide⟩ (.cons ⟨by decide, by decide⟩
      (.cons ⟨by decide, by decide⟩ (.cons ⟨by decide, by decide⟩ .nil)))
  have numeral : Numeral "0X00aB".toList [0, 0, 10, 11] := .of mark digits
  obtain ⟨accepted, value, zeros, -⟩ := parseWord_numerals
  obtain ⟨w, hw⟩ := (accepted "0X00aB").mpr ⟨_, numeral, by decide⟩
  exact ⟨numeral, ⟨w, hw, value _ _ _ numeral hw⟩, mark, zeros _ _ 80 mark nofun⟩

end VectorReplay.Hex
