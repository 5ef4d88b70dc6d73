import Mathlib.Data.List.DropRight
import VectorReplay.Proofs.Json.Ensures

/-!
Scanning leaves no more text than it was given. Every member of an object takes characters of its own,
so the length of the text is a bound on their number.
-/
namespace VectorReplay.Json

/-! ### Blanks, words and strings -/

theorem length_skipSpace (s : List Char) : (skipSpace s).length ≤ s.length :=
  (List.dropWhile_suffix isSpace).length_le

theorem length_of_skipSpace {s r : List Char} {c : Char} (h : skipSpace s = c :: r) :
    r.length < s.length := by
  have hle := length_skipSpace s
  rw [h, List.length_cons] at hle
  omega

theorem length_of_word {expected s r : List Char} (h : word expected s = .ok r) :
    r.length ≤ s.length := by
  fun_induction word expected s with
  | case1 =>
    cases h
    exact le_rfl
  | case2 => cases h
  | case3 cs c s ih => exact (ih h).trans (Nat.le_succ _)
  | case4 => cases h

theorem length_of_stringBody {s text r : List Char} (h : stringBody s = .ok (text, r)) :
    r.length < s.length := by
  fun_induction stringBody s generalizing text r with
  | case1 => cases h
  | case2 s =>
    cases h
    exact Nat.lt_succ_self _
  | case3 => cases h
  | case4 => cases h
  | case5 s d t hescape text' rest hrest _ ih =>
    cases h
    have hdropped := length_of_unescape hescape
    have hread := ih hrest
    rw [List.length_cons]
    omega
  | case6 => cases h
  | case7 => cases h
  | case8 d s _ _ _ text' rest hrest ih =>
    cases h
    exact (ih hrest).trans (Nat.lt_succ_self _)

theorem length_of_passString {s r : List Char} (h : passString s = .ok r) :
    r.length < s.length := by
  fun_induction passString s with
  | case1 => cases h
  | case2 s =>
    cases h
    exact Nat.lt_succ_self _
  | case3 => cases h
  | case4 d s _ _ ih =>
    have hread := ih h
    rw [List.length_cons, List.length_cons]
    omega
  | case5 => cases h
  | case6 s _ rest hfour _ _ ih =>
    have hdropped := length_of_hexFour hfour
    have hread := ih h
    rw [List.length_cons, List.length_cons]
    omega
  | case7 => cases h
  | case8 => cases h
  | case9 d s _ _ _ ih => exact (ih h).trans (Nat.lt_succ_self _)

theorem length_of_colon {s r : List Char} (h : colon s = .ok r) : r.length ≤ s.length := by
  unfold colon at h
  split at h
  · cases h
  · rename_i c t hs
    split at h
    · cases h
      exact (length_of_skipSpace hs).le
    · cases h

/-! ### Numbers -/

section
variable {atEnd : Error} {s text r : List Char}

theorem length_of_someDigits (h : someDigits atEnd s = .ok (text, r)) : r.length ≤ s.length := by
  unfold someDigits at h
  split at h
  · cases h
  · split at h
    · cases h
      exact (List.dropWhile_suffix _).length_le
    · cases h

theorem length_of_integerPart (h : integerPart atEnd s = .ok (text, r)) : r.length ≤ s.length := by
  unfold integerPart at h
  split at h
  · split at h
    · cases h
    · cases h
      exact Nat.le_succ _
  · exact length_of_someDigits h

theorem length_of_fractionPart (h : fractionPart atEnd s = .ok (text, r)) : r.length ≤ s.length := by
  unfold fractionPart at h
  split at h
  · obtain ⟨⟨digits, t⟩, hdigits, h⟩ := bind_eq_ok.mp h
    cases h
    exact (length_of_someDigits hdigits).trans (Nat.le_succ _)
  · cases h
    exact le_rfl

theorem length_exponentSign (s : List Char) : (exponentSign s).2.length ≤ s.length := by
  unfold exponentSign
  split
  · exact Nat.le_succ _
  · exact Nat.le_succ _
  · exact le_rfl

theorem length_of_exponentPart (h : exponentPart atEnd s = .ok (text, r)) : r.length ≤ s.length := by
  unfold exponentPart at h
  split at h
  · cases h
    exact le_rfl
  · rename_i c t
    split at h
    · obtain ⟨⟨digits, u⟩, hdigits, h⟩ := bind_eq_ok.mp h
      cases h
      exact ((length_of_someDigits hdigits).trans (length_exponentSign t)).trans (Nat.le_succ _)
    · cases h
      exact le_rfl

theorem length_of_number (h : number atEnd s = .ok (text, r)) : r.length ≤ s.length := by
  simp only [number, bind_eq_ok] at h
  obtain ⟨⟨i, t⟩, hi, ⟨f, u⟩, hf, ⟨e, v⟩, he, h⟩ := h
  cases h
  exact ((length_of_exponentPart he).trans (length_of_fractionPart hf)).trans
    (length_of_integerPart hi)

end

/-! ### Values that are passed over -/

theorem length_of_skipScalar {c : Char} {s r : List Char} (h : skipScalar c s = .ok r) :
    r.length ≤ (c :: s).length := by
  have hword {expected : List Char} (h : word expected s = .ok r) : r.length ≤ (c :: s).length :=
    (length_of_word h).trans (Nat.le_succ _)
  have hnumber {t : List Char} (h : (number .invalidNumber t).map Prod.snd = .ok r) :
      r.length ≤ t.length := by
    obtain ⟨⟨text, u⟩, hread, rfl⟩ := map_eq_ok.mp h
    exact length_of_number hread
  unfold skipScalar at h
  split_ifs at h
  · exact hword h
  · exact hword h
  · exact hword h
  · exact (hnumber h).trans (Nat.le_succ _)
  · exact hnumber h
  · exact (length_of_passString h).le.trans (Nat.le_succ _)

theorem length_of_skipKey {s r : List Char} (h : skipKey s = .ok r) : r.length ≤ s.length := by
  unfold skipKey at h
  split at h
  · cases h
  · rename_i c t hs
    split at h
    · obtain ⟨u, hu, h⟩ := bind_eq_ok.mp h
      have hspace := length_of_skipSpace hs
      have hstring := length_of_passString hu
      have hcolon := length_of_colon h
      omega
    · cases h

theorem length_of_enter {b : Bracket} {s r : List Char} (h : enter b s = .ok r) :
    r.length ≤ s.length := by
  cases b with
  | list =>
    cases h
    exact le_rfl
  | object => exact length_of_skipKey h

theorem length_of_closeBrackets {brackets rest : List Bracket} {comma : Bool} {s r : List Char}
    (h : closeBrackets brackets comma s = .ok (rest, r)) : r.length ≤ s.length := by
  have henter {b : Bracket} {outer : List Bracket} {t : List Char}
      (h : (enter b t).map (b :: outer, ·) = .ok (rest, r)) : r.length ≤ t.length := by
    obtain ⟨u, hu, hpair⟩ := map_eq_ok.mp h
    cases hpair
    exact length_of_enter hu
  fun_induction closeBrackets brackets comma s with
  | case1 =>
    cases h
    exact le_rfl
  | case2 => cases h
  | case3 b outer comma s c t hs hcomma =>
    exact (henter h).trans (length_of_skipSpace hs).le
  | case4 b outer comma s t hs _ ih => exact (ih h).trans (length_of_skipSpace hs).le
  | case5 => cases h
  | case6 b outer comma s c t hs =>
    have hspace := length_skipSpace s
    rw [hs] at hspace
    exact (henter h).trans hspace

theorem length_of_skipWithin {fuel : Nat} {brackets : List Bracket} {s r : List Char}
    (h : skipWithin fuel brackets s = .ok r) : r.length ≤ s.length := by
  induction fuel generalizing brackets s with
  | zero => cases h
  | succ fuel ih =>
    unfold skipWithin at h
    split at h
    · cases h
    · rename_i c t hs
      have hspace := length_of_skipSpace hs
      have hround {rest : List Bracket} {u : List Char} (hu : u.length ≤ t.length + 1)
          (h : (if rest.isEmpty then pure u else skipWithin fuel rest u) = .ok r) :
          r.length ≤ s.length := by
        split at h
        · cases h
          omega
        · have hrest := ih h
          omega
      dsimp only at h
      split_ifs at h
      · obtain ⟨⟨rest, u⟩, hclosed, h⟩ := bind_eq_ok.mp h
        exact hround ((length_of_closeBrackets hclosed).trans (Nat.le_succ _)) h
      · obtain ⟨⟨rest, u⟩, hclosed, h⟩ := bind_eq_ok.mp h
        exact hround ((length_of_closeBrackets hclosed).trans (Nat.le_succ _)) h
      · obtain ⟨v, hv, h⟩ := bind_eq_ok.mp h
        obtain ⟨⟨rest, u⟩, hclosed, h⟩ := bind_eq_ok.mp h
        exact hround ((length_of_closeBrackets hclosed).trans (length_of_skipScalar hv)) h

theorem length_of_skipValue {s r : List Char} (h : skipValue s = .ok r) : r.length ≤ s.length :=
  length_of_skipWithin h

/-! ### Members -/

/-- A member opens with a quote, and all but the first with a comma before it. -/
inductive Opens : (first : Bool) → (s t : List Char) → Prop
  | first {s t : List Char} (quote : skipSpace s = '"' :: t) : Opens true s t
  | further {s r t : List Char} (comma : skipSpace s = ',' :: r) (quote : skipSpace r = '"' :: t) :
    Opens false s t

theorem key_eq_ok {s t : List Char} {more : Bool} :
    nextMember.key s = .ok (more, t) ↔ more = true ∧ s = '"' :: t := by
  unfold nextMember.key
  split
  · simp
  · split_ifs <;> simp_all [eq_comm]

theorem nextMember_of_opens {first : Bool} {s t : List Char} (h : Opens first s t) :
    nextMember first s = .ok (true, t) := by
  cases h with
  | first quote => rw [nextMember, quote]; rfl
  | further comma quote =>
    rw [nextMember, comma]
    exact key_eq_ok.mpr ⟨rfl, quote⟩

theorem nextMember_of_close (first : Bool) {s r : List Char} (h : skipSpace s = '\x7d' :: r) :
    nextMember first s = .ok (false, '\x7d' :: r) := by
  rw [nextMember, h]
  rfl

theorem nextMember_cases {first more : Bool} {s t : List Char}
    (h : nextMember first s = .ok (more, t)) :
    more = true ∧ Opens first s t ∨ more = false ∧ ∃ r, skipSpace s = '\x7d' :: r ∧ t = '\x7d' :: r := by
  unfold nextMember at h
  split at h
  · cases h
  · rename_i c r hs
    split_ifs at h with hclose hfirst hcomma
    · cases h
      exact .inr ⟨rfl, r, by rw [hs, hclose], by rw [hclose]⟩
    · obtain ⟨rfl, hquote⟩ := key_eq_ok.mp h
      rw [hfirst]
      exact .inl ⟨rfl, .first (hs.trans hquote)⟩
    · obtain ⟨rfl, hquote⟩ := key_eq_ok.mp h
      rw [Bool.not_eq_true] at hfirst
      rw [hfirst]
      exact .inl ⟨rfl, .further (by rw [hs, hcomma]) hquote⟩

theorem Opens.length_lt {first : Bool} {s t : List Char} (h : Opens first s t) :
    t.length < s.length := by
  cases h with
  | first quote => exact length_of_skipSpace quote
  | further comma quote => exact (length_of_skipSpace quote).trans (length_of_skipSpace comma)

/-! ### Readers -/

variable {α : Type}

/-- What the reader leaves is no longer than the text. -/
def Reader.Consumes (read : Reader α) : Prop :=
  ∀ s a r, read s = .ok (a, r) → r.length ≤ s.length

end VectorReplay.Json
