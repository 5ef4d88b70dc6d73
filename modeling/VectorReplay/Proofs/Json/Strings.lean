import VectorReplay.Json.Write
import VectorReplay.Proofs.Hex

/-!
Strings in JSON: reading a quoted text undoes every escape and stops at the closing quote.
-/
namespace VectorReplay.Json

/-- What follows the four digits of an escaped control character is left over. -/
theorem hexFour_control : ∀ (n : Fin 32) (s : List Char),
    hexFour ('0' :: '0' :: Hex.digit (n / 16) :: Hex.digit (n % 16) :: s) = .ok (n.val, s) := by
  have hvalues : ∀ n : Fin 32,
      hexValues ['0', '0', Hex.digit (n / 16), Hex.digit (n % 16)] = some n.val := by decide
  intro n s
  unfold hexFour
  simp only [List.take_succ_cons, List.take_zero, hvalues, List.drop_succ_cons, List.drop_zero]

theorem unescape_control {c : Char} (h : c.toNat < 32) (s : List Char) :
    unescape ('u' :: '0' :: '0' :: Hex.digit (c.toNat / 16) :: Hex.digit (c.toNat % 16) :: s) =
      .ok (c, s) := by
  have htrailing : isTrailing c.toNat = false := by
    simp only [isTrailing, Bool.and_eq_false_iff, decide_eq_false_iff_not]
    omega
  have hleading : isLeading c.toNat = false := by
    simp only [isLeading, Bool.and_eq_false_iff, decide_eq_false_iff_not]
    omega
  have hfour := hexFour_control ⟨c.toNat, h⟩ s
  simp only at hfour
  change unicode _ = _
  simp only [unicode, hfour, htrailing, hleading, Bool.false_eq_true, if_false, Char.ofNat_toNat]

/-- A character is written behind a backslash, from which it reads back, or as it is. -/
theorem escape_cases (c : Char) :
    (∃ e, escape c = '\\' :: e ∧ ∀ s, unescape (e ++ s) = .ok (c, s)) ∨
    (escape c = [c] ∧ c ≠ '"' ∧ c ≠ '\\' ∧ ¬ c.toNat < 0x20) := by
  by_cases hsimple : c ∈ ['"', '\\', '\x08', '\x0c', '\n', '\r', '\t']
  · left
    simp only [List.mem_cons, List.not_mem_nil, or_false] at hsimple
    rcases hsimple with rfl | rfl | rfl | rfl | rfl | rfl | rfl <;> exact ⟨[_], rfl, fun _ => rfl⟩
  simp only [List.mem_cons, List.not_mem_nil, or_false, not_or] at hsimple
  obtain ⟨hquote, hslash, hback, hfeed, hline, hreturn, htab⟩ := hsimple
  unfold escape
  rw [if_neg hquote, if_neg hslash, if_neg hback, if_neg hfeed, if_neg hline, if_neg hreturn,
    if_neg htab]
  by_cases hcontrol : c.toNat < 0x20
  · rw [if_pos hcontrol]
    exact Or.inl ⟨_, rfl, unescape_control hcontrol⟩
  · rw [if_neg hcontrol]
    exact Or.inr ⟨rfl, hquote, hslash, hcontrol⟩

/-- What stands behind an escaped character is read on. -/
theorem stringBody_escape (c : Char) {s text rest : List Char} (h : stringBody s = .ok (text, rest)) :
    stringBody (escape c ++ s) = .ok (c :: text, rest) := by
  rcases escape_cases c with ⟨e, hescape, hunescape⟩ | ⟨hescape, hquote, hslash, hcontrol⟩
  · rw [hescape, List.cons_append, stringBody, if_neg (by decide), if_pos rfl]
    split
    next hfailed =>
      rw [hunescape] at hfailed
      cases hfailed
    next hread =>
      rw [hunescape] at hread
      cases hread
      rw [h]
  · rw [hescape, List.singleton_append, stringBody, if_neg hquote, if_neg hslash, if_neg hcontrol, h]

/-- A quoted text reads back up to its closing quote. -/
theorem stringBody_flatMap_escape (s rest : List Char) :
    stringBody (s.flatMap escape ++ '"' :: rest) = .ok (s, rest) := by
  induction s with
  | nil => rw [List.flatMap_nil, List.nil_append, stringBody, if_pos rfl]
  | cons c s ih =>
    rw [List.flatMap_cons, List.append_assoc]
    exact stringBody_escape c ih

end VectorReplay.Json
