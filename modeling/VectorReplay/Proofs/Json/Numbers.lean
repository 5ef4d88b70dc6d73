import VectorReplay.Json.Decoder
import VectorReplay.Proofs.Json.Reads

/-!
Natural numbers in JSON text. They have no leading zero and end where the text is delimited, so they
read back digit by digit.
-/
namespace VectorReplay.Json

/-! ### Digits -/

/-- The digits of a number start with one that is zero only for zero. -/
theorem toDigits_leading (n : Nat) :
    ∃ d ds, Nat.toDigits 10 n = Nat.digitChar d :: ds ∧ (d = 0 → n = 0) := by
  induction n using Nat.strongRecOn with
  | ind n ih =>
    rw [Nat.toDigits_eq_if (by decide)]
    split
    next => exact ⟨n, [], rfl, id⟩
    next hge =>
      obtain ⟨d, ds, hdigits, hzero⟩ := ih (n / 10) (by omega)
      refine ⟨d, ds ++ [Nat.digitChar (n % 10)], by rw [hdigits]; rfl, ?_⟩
      intro h
      have hn := hzero h
      omega

theorem decimal_toList (n : Nat) : (toString n).toList = Nat.toDigits 10 n := by
  rw [Nat.toString_eq_ofList_toDigits, String.toList_ofList]

theorem natOfDigits_decimal (n : Nat) : natOfDigits (toString n).toList = n := by
  have hvalue : natOfDigits (Nat.toDigits 10 n) = Nat.ofDigitChars 10 (Nat.toDigits 10 n) 0 := rfl
  rw [decimal_toList, hvalue, Nat.ofDigitChars_ten_toDigits]

theorem isDigit_of_mem_decimal {n : Nat} {c : Char} (h : c ∈ (toString n).toList) :
    c.isDigit = true := by
  rw [decimal_toList] at h
  exact Nat.isDigit_of_mem_toDigits (by decide) (by decide) h

/-- A number in decimal is zero or starts with another digit. -/
theorem decimal_cases (n : Nat) :
    (∃ c ds, (toString n).toList = c :: ds ∧ c ≠ '0') ∨ (toString n).toList = ['0'] := by
  obtain ⟨d, ds, hdigits, hzero⟩ := toDigits_leading n
  rw [decimal_toList]
  by_cases hd : d = 0
  · rw [hzero hd, Nat.toDigits_zero]
    exact Or.inr rfl
  · exact Or.inl ⟨Nat.digitChar d, ds, hdigits, mt Nat.digitChar_eq_zero.mp hd⟩

theorem exists_digit (n : Nat) : ∃ c ds, (toString n).toList = c :: ds ∧ c.isDigit = true := by
  obtain ⟨d, ds, hdigits, -⟩ := toDigits_leading n
  rw [← decimal_toList] at hdigits
  refine ⟨_, ds, hdigits, ?_⟩
  apply isDigit_of_mem_decimal
  rw [hdigits]
  exact List.mem_cons_self

/-! ### Reading -/

theorem Delimited.head_not_digit {rest : List Char} (h : Delimited rest) :
    (rest.head?.map Char.isDigit).getD false = false := by
  cases rest with
  | nil => rfl
  | cons c rest => rcases h with rfl | rfl | rfl <;> rfl

theorem someDigits_append (atEnd : Error) {c : Char} {ds rest : List Char}
    (hdigits : ∀ d ∈ c :: ds, d.isDigit) (h : Delimited rest) :
    someDigits atEnd (c :: ds ++ rest) = .ok (c :: ds, rest) := by
  have hnone : rest.takeWhile Char.isDigit = [] ∧ rest.dropWhile Char.isDigit = rest := by
    cases rest with
    | nil => exact ⟨rfl, rfl⟩
    | cons c rest => rcases h with rfl | rfl | rfl <;> exact ⟨rfl, rfl⟩
  have hc : c.isDigit = true := hdigits c List.mem_cons_self
  rw [List.cons_append, someDigits, if_pos hc, ← List.cons_append,
    List.takeWhile_append_of_pos hdigits, List.dropWhile_append_of_pos hdigits, hnone.1, hnone.2,
    List.append_nil]

theorem integerPart_decimal (atEnd : Error) (n : Nat) {rest : List Char} (h : Delimited rest) :
    integerPart atEnd ((toString n).toList ++ rest) = .ok ((toString n).toList, rest) := by
  rcases decimal_cases n with ⟨c, ds, htext, hc⟩ | htext
  · have hdigits : ∀ d ∈ c :: ds, d.isDigit := fun d hd => isDigit_of_mem_decimal (htext ▸ hd)
    rw [htext, ← someDigits_append atEnd hdigits h]
    unfold integerPart
    split
    next heq => exact absurd (List.cons.inj heq).1 hc
    next => rfl
  · rw [htext, List.singleton_append, integerPart, h.head_not_digit]
    rfl

/-- A number ends at a delimiter: it has neither a fraction nor an exponent. -/
theorem number_decimal (atEnd : Error) (n : Nat) {rest : List Char} (h : Delimited rest) :
    number atEnd ((toString n).toList ++ rest) = .ok ((toString n).toList, rest) := by
  have hfraction : fractionPart atEnd rest = .ok ([], rest) := by
    cases rest with
    | nil => rfl
    | cons c rest => rcases h with rfl | rfl | rfl <;> rfl
  have hexponent : exponentPart atEnd rest = .ok ([], rest) := by
    cases rest with
    | nil => rfl
    | cons c rest => rcases h with rfl | rfl | rfl <;> rfl
  simp only [number, integerPart_decimal atEnd n h, hfraction, hexponent, bind, Except.bind,
    List.append_nil]
  rfl

/-! ### Values -/

theorem ne_of_isDigit {c d : Char} (hc : c.isDigit = true) (hd : d.isDigit = false) : c ≠ d := by
  rintro rfl
  rw [hc] at hd
  cases hd

theorem isSpace_of_isDigit {c : Char} (h : c.isDigit = true) : isSpace c = false := by
  simp [isSpace, ne_of_isDigit h]

namespace Value

theorem isOpened_number (n : Nat) : (Value.number (toString n)).IsOpened := by
  obtain ⟨c, ds, htext, hc⟩ := exists_digit n
  have hrender : (Value.number (toString n)).render = c :: ds := by rw [Value.render, htext]
  exact ⟨c, ds, hrender, isSpace_of_isDigit hc, ne_of_isDigit hc rfl, ne_of_isDigit hc rfl⟩

/-- What starts with a digit has no sign. -/
theorem readNumber_decimal (n : Nat) {rest : List Char} (h : Delimited rest) :
    readNumber ((toString n).toList ++ rest) = .ok (.number (toString n), rest) := by
  obtain ⟨c, ds, htext, hc⟩ := exists_digit n
  have hnumber := number_decimal .eofInValue n h
  have hdigits : toString n = String.ofList (c :: ds) := by rw [← htext, String.ofList_toList]
  rw [htext] at hnumber ⊢
  rw [hdigits]
  unfold readNumber
  split
  next heq => exact absurd (List.cons.inj heq).1 (ne_of_isDigit hc rfl)
  next => rw [hnumber]; rfl

/-- Where a text starts with a digit, a number is read. -/
theorem read_digit {c : Char} (h : c.isDigit = true) (s : List Char) :
    Value.read 0 (c :: s) = readNumber (c :: s) := by
  rw [Value.read, Reader.dispatch_cons _ (isSpace_of_isDigit h)]
  simp [readScalar, ne_of_isDigit h, h]

end Value

namespace Decoder

theorem reads_number (n : Nat) :
    (Decoder.value 0).Reads (.number (toString n)) (.number (toString n)) := by
  intro rest hrest
  obtain ⟨c, ds, htext, hc⟩ := exists_digit n
  have hread := Value.readNumber_decimal n hrest
  rw [Value.render]
  rw [htext] at hread ⊢
  exact (Value.read_digit hc _).trans hread

theorem reads_textValue (s : String) : (Decoder.value 0).Reads (.text s) (.text s) := by
  intro rest _
  have hbody := stringBody_flatMap_escape s.toList rest
  rw [render_text_append]
  simp only [Decoder.value, Value.read, Reader.dispatch_cons _ (show isSpace '"' = false from rfl)]
  simp [Value.readScalar, hbody, Except.map, String.ofList_toList]

end Decoder

end VectorReplay.Json
