import VectorReplay.Proofs.Json.Lengths

/-!
Passing over values, step by step. The text bounds the rounds, so that they need no fuel; and the
brackets around a value do not matter until its own are closed.
-/
namespace VectorReplay.Json

/-! ### Passing over without fuel -/

/-- Passes over values up to the end of the outermost bracket. The text bounds the rounds. -/
def skipFrom (brackets : List Bracket) (s : List Char) : Except Error (List Char) :=
  skipWithin s.length brackets s

/-- Goes on inside brackets; `comma` tells whether a value stands before. -/
def skipOn (comma : Bool) (brackets : List Bracket) (s : List Char) : Except Error (List Char) := do
  let (rest, t) ← closeBrackets brackets comma s
  if rest.isEmpty then pure t else skipFrom rest t

/-- Passes over a value from its first character on, and over what is open around it. -/
def skipHere (brackets : List Bracket) (c : Char) (t : List Char) : Except Error (List Char) :=
  if c = '[' then skipOn false (.list :: brackets) t
  else if c = '{' then skipOn false (.object :: brackets) t
  else skipScalar c t >>= skipOn true brackets

theorem length_lt_of_closeBrackets {brackets rest : List Bracket} {s r : List Char}
    (h : closeBrackets brackets true s = .ok (rest, r)) (hrest : rest ≠ []) :
    r.length < s.length := by
  cases brackets with
  | nil =>
    cases h
    exact absurd rfl hrest
  | cons b outer =>
    unfold closeBrackets at h
    split at h
    · cases h
    · rename_i c t hs
      have hspace := length_of_skipSpace hs
      split_ifs at h
      · obtain ⟨u, hu, hpair⟩ := map_eq_ok.mp h
        cases hpair
        exact (length_of_enter hu).trans_lt hspace
      · exact (length_of_closeBrackets h).trans_lt hspace
      · contradiction

/-- One round, whatever fuel is left for the others. -/
theorem skipWithin_succ {fuel : Nat} {brackets : List Bracket} {s t : List Char} {c : Char}
    (hs : skipSpace s = c :: t) (hrest : ∀ rest u, u.length < s.length →
      skipWithin fuel rest u = skipFrom rest u) :
    skipWithin (fuel + 1) brackets s = skipHere brackets c t := by
  have hspace := length_of_skipSpace hs
  have hopened (b : Bracket) : (closeBrackets (b :: brackets) false t >>= fun p =>
      if p.1.isEmpty then pure p.2 else skipWithin fuel p.1 p.2) =
        skipOn false (b :: brackets) t := by
    rw [skipOn]
    cases hclosed : closeBrackets (b :: brackets) false t with
    | error e => rfl
    | ok p =>
      have hle := length_of_closeBrackets hclosed
      simp only [bind, Except.bind, hrest p.1 p.2 (by omega)]
  have hbehind (u : List Char) (hu : u.length ≤ t.length + 1) :
      (closeBrackets brackets true u >>= fun p =>
        if p.1.isEmpty then pure p.2 else skipWithin fuel p.1 p.2) = skipOn true brackets u := by
    rw [skipOn]
    cases hclosed : closeBrackets brackets true u with
    | error e => rfl
    | ok p =>
      by_cases hp : p.1 = []
      · simp only [bind, Except.bind, hp, List.isEmpty_nil, if_true]
      · have hlt := length_lt_of_closeBrackets hclosed hp
        simp only [bind, Except.bind, hrest p.1 p.2 (by omega)]
  rw [skipWithin, hs, skipHere]
  dsimp only
  split_ifs
  · exact hopened .list
  · exact hopened .object
  · cases hscalar : skipScalar c t with
    | error e => rfl
    | ok u => exact hbehind u (length_of_skipScalar hscalar)

theorem skipWithin_of_blank {fuel : Nat} {brackets : List Bracket} {s : List Char}
    (hs : skipSpace s = []) : skipWithin fuel brackets s = .error .eofInValue := by
  cases fuel with
  | zero => rfl
  | succ fuel => rw [skipWithin, hs]

theorem skipWithin_eq {fuel : Nat} {brackets : List Bracket} {s : List Char}
    (hfuel : s.length ≤ fuel) : skipWithin fuel brackets s = skipFrom brackets s := by
  induction hn : s.length using Nat.strongRecOn generalizing fuel brackets s with
  | ind n ih =>
    cases hs : skipSpace s with
    | nil => rw [skipFrom, skipWithin_of_blank hs, skipWithin_of_blank hs]
    | cons c t =>
      have hspace := length_of_skipSpace hs
      have hround {k : Nat} (hk : s.length ≤ k + 1) :
          skipWithin (k + 1) brackets s = skipHere brackets c t :=
        skipWithin_succ hs fun rest u hu => ih u.length (by omega) (by omega) rfl
      obtain ⟨k, rfl⟩ := Nat.exists_eq_succ_of_ne_zero (by omega : fuel ≠ 0)
      obtain ⟨m, hm⟩ := Nat.exists_eq_succ_of_ne_zero (by omega : s.length ≠ 0)
      rw [skipFrom, hm, hround hfuel, hround hm.le]

theorem skipFrom_eq {brackets : List Bracket} {s t : List Char} {c : Char}
    (hs : skipSpace s = c :: t) : skipFrom brackets s = skipHere brackets c t := by
  have hspace := length_of_skipSpace hs
  rw [← skipWithin_eq (Nat.le_succ s.length)]
  exact skipWithin_succ hs fun rest u hu => skipWithin_eq hu.le

theorem skipFrom_of_blank {brackets : List Bracket} {s : List Char} (hs : skipSpace s = []) :
    skipFrom brackets s = .error .eofInValue :=
  skipWithin_of_blank hs

theorem skipSpace_skipSpace (s : List Char) : skipSpace (skipSpace s) = skipSpace s :=
  List.dropWhile_idempotent isSpace s

theorem skipFrom_skipSpace (brackets : List Bracket) (s : List Char) :
    skipFrom brackets (skipSpace s) = skipFrom brackets s := by
  cases hs : skipSpace s with
  | nil => rw [skipFrom_of_blank hs, skipFrom_of_blank rfl]
  | cons c t =>
    have hagain : skipSpace (c :: t) = c :: t := by rw [← hs, skipSpace_skipSpace]
    rw [skipFrom_eq hs, skipFrom_eq hagain]

/-! ### Inside brackets -/

section
variable {b : Bracket} {outer : List Bracket} {comma : Bool} {s t u r : List Char}

theorem skipOn_close (hs : skipSpace s = b.closing :: r) :
    skipOn comma (b :: outer) s = skipOn true outer r := by
  have hcomma : (comma && decide (b.closing = ',')) = false := by
    cases b <;> simp [Bracket.closing]
  rw [skipOn, skipOn, closeBrackets, hs]
  simp only [hcomma, Bool.false_eq_true, if_false, if_true]

theorem skipOn_first {c : Char} (hs : skipSpace s = c :: t) (hc : c ≠ b.closing)
    (henter : enter b (c :: t) = .ok u) :
    skipOn false (b :: outer) s = skipFrom (b :: outer) u := by
  rw [skipOn, closeBrackets, hs]
  simp only [Bool.false_and, Bool.false_eq_true, if_false, hc, henter]
  rfl

theorem skipOn_further (hs : skipSpace s = ',' :: t) (henter : enter b t = .ok u) :
    skipOn true (b :: outer) s = skipFrom (b :: outer) u := by
  rw [skipOn, closeBrackets, hs]
  simp only [Bool.true_and, decide_true, if_true, henter]
  rfl

theorem skipOn_skipSpace (comma : Bool) (b : Bracket) (outer : List Bracket) (s : List Char) :
    skipOn comma (b :: outer) (skipSpace s) = skipOn comma (b :: outer) s := by
  rw [skipOn, skipOn, closeBrackets, closeBrackets, skipSpace_skipSpace]

/-- Brackets further out do not matter until those inside are closed. -/
theorem closeBrackets_append (outer : List Bracket) {inner rest : List Bracket}
    (hopen : inner ≠ [] ∨ comma = true) (h : closeBrackets inner comma s = .ok (rest, r)) :
    closeBrackets (inner ++ outer) comma s =
      if rest.isEmpty then closeBrackets outer true r else .ok (rest ++ outer, r) := by
  fun_induction closeBrackets inner comma s with
  | case1 comma s =>
    cases h
    obtain rfl : comma = true := hopen.resolve_left fun hne => hne rfl
    rfl
  | case2 => cases h
  | case3 b inner comma s c t hs hcomma =>
    obtain ⟨u, hu, hpair⟩ := map_eq_ok.mp h
    cases hpair
    rw [List.cons_append, closeBrackets, hs]
    simp only [hcomma, if_true, hu]
    rfl
  | case4 b inner comma s t hs hcomma ih =>
    rw [List.cons_append, closeBrackets, hs]
    simp only [hcomma, if_true]
    exact ih (.inr rfl) h
  | case5 => cases h
  | case6 b inner comma s c t hs hcomma hclose hfirst =>
    obtain ⟨u, hu, hpair⟩ := map_eq_ok.mp h
    cases hpair
    rw [List.cons_append, closeBrackets, hs]
    simp only [hclose, hfirst, if_false, hu]
    rfl

theorem skipOn_append {inner : List Bracket} (hopen : inner ≠ [] ∨ comma = true)
    (hfrom : ∀ rest u, closeBrackets inner comma s = .ok (rest, u) → rest ≠ [] →
      skipFrom rest u = .ok r → skipFrom (rest ++ outer) u = skipOn true outer r)
    (h : skipOn comma inner s = .ok r) : skipOn comma (inner ++ outer) s = skipOn true outer r := by
  obtain ⟨⟨rest, u⟩, hclosed, h⟩ := bind_eq_ok.mp h
  have happend := closeBrackets_append outer hopen hclosed
  cases rest with
  | nil =>
    cases h
    rw [skipOn, skipOn, happend]
    rfl
  | cons b rest =>
    have hrest := hfrom _ u hclosed (List.cons_ne_nil b rest) h
    rw [skipOn, happend]
    exact hrest

/-- A value that was passed over for itself is passed over inside brackets. -/
theorem skipFrom_append {inner : List Bracket} (h : skipFrom inner s = .ok r) :
    skipFrom (inner ++ outer) s = skipOn true outer r := by
  induction hn : s.length using Nat.strongRecOn generalizing inner s with
  | ind n ih =>
    cases hs : skipSpace s with
    | nil =>
      rw [skipFrom_of_blank hs] at h
      cases h
    | cons c t =>
      have hspace := length_of_skipSpace hs
      have hopened {b : Bracket} (h : skipOn false (b :: inner) t = .ok r) :
          skipOn false (b :: (inner ++ outer)) t = skipOn true outer r := by
        refine skipOn_append (.inl (List.cons_ne_nil b inner)) (fun rest u hclosed _ hu => ?_) h
        have hle := length_of_closeBrackets hclosed
        exact ih u.length (by omega) hu rfl
      rw [skipFrom_eq hs, skipHere] at h ⊢
      split_ifs at h ⊢
      · exact hopened h
      · exact hopened h
      · obtain ⟨u, hu, h⟩ := bind_eq_ok.mp h
        have hle := length_of_skipScalar hu
        rw [List.length_cons] at hle
        rw [hu]
        refine skipOn_append (.inr rfl) (fun rest v hclosed hrest hv => ?_) h
        have hlt := length_lt_of_closeBrackets hclosed hrest
        exact ih v.length (by omega) hv rfl

end

end VectorReplay.Json
