import VectorReplay.Proofs.Json.Numbers
import VectorReplay.Proofs.Json.Skipping

/-!
Whatever a reader reads is passed over up to the same place, at any depth. Passing over asks for less:
escapes need not denote characters, and brackets may stand inside each other without limit.
-/
namespace VectorReplay.Json

variable {α β σ δ : Type}

/-! ### Readers -/

/-- What the reader reads is passed over up to the same place. -/
def Reader.Passes (read : Reader α) : Prop :=
  ∀ s a r, read s = .ok (a, r) → ∀ outer, skipFrom outer s = skipOn true outer r

/-- The same for what stands behind a key. -/
def Reader.PassesMember (read : Reader α) : Prop :=
  ∀ s a r, read s = .ok (a, r) →
    ∃ t, colon s = .ok t ∧ ∀ outer, skipFrom outer t = skipOn true outer r

/-! ### Scalars -/

section
variable {s r : List Char}

theorem passString_quote (r : List Char) : passString ('"' :: r) = .ok r := by
  rw [passString.eq_def]
  exact if_pos rfl

theorem passString_plain {c : Char} (hquote : c ≠ '"') (hslash : c ≠ '\\')
    (hcontrol : ¬ c.toNat < 0x20) (r : List Char) : passString (c :: r) = passString r := by
  rw [passString.eq_def]
  dsimp only
  rw [if_neg hquote, if_neg hslash, if_neg hcontrol]

theorem passString_simple {d c : Char} (h : simpleEscape? d = some c) (r : List Char) :
    passString ('\\' :: d :: r) = passString r := by
  rw [passString.eq_def]
  dsimp only
  rw [if_neg (by decide), if_pos rfl, h, Option.isSome_some, if_pos rfl]

theorem passString_of_hexFour {n : Nat} (h : hexFour s = .ok (n, r)) :
    passString ('\\' :: 'u' :: s) = passString r := by
  rw [passString.eq_def]
  dsimp only
  rw [if_neg (by decide), if_pos rfl, if_neg (by decide), if_pos rfl]
  split
  next hfour => cases h.symm.trans hfour
  next hfour =>
    cases h.symm.trans hfour
    rfl

/-- The second half of a pair is an escape of its own when it is passed over. -/
theorem passString_of_trailing {lead : Nat} {c : Char} (h : trailing lead s = .ok (c, r)) :
    passString s = passString r := by
  unfold trailing at h
  split at h
  next => cases h
  next x s =>
    split_ifs at h with hslash
    subst hslash
    split at h
    next => cases h
    next y s =>
      split_ifs at h with hu
      subst hu
      split at h
      next => cases h
      next n t hfour =>
        split_ifs at h
        rw [← (Prod.mk.inj (Except.ok.inj h)).2]
        exact passString_of_hexFour hfour

theorem passString_of_unescape {c : Char} (h : unescape s = .ok (c, r)) :
    passString ('\\' :: s) = passString r := by
  unfold unescape at h
  split at h
  next => cases h
  next d s =>
    split at h
    next hsimple =>
      cases h
      exact passString_simple hsimple r
    next =>
      split_ifs at h with hu
      subst hu
      unfold unicode at h
      split at h
      next => cases h
      next n t hfour =>
        rw [passString_of_hexFour hfour]
        split_ifs at h
        · exact passString_of_trailing h
        · cases h
          rfl

/-- Fewer strings are read than are passed over: escapes have to denote characters. -/
theorem passString_of_stringBody {text : List Char} (h : stringBody s = .ok (text, r)) :
    passString s = .ok r := by
  fun_induction stringBody s generalizing text r with
  | case1 => cases h
  | case2 s =>
    cases h
    exact passString_quote s
  | case3 => cases h
  | case4 => cases h
  | case5 s d t hescape text' rest hrest _ ih =>
    cases h
    rw [passString_of_unescape hescape]
    exact ih hrest
  | case6 => cases h
  | case7 => cases h
  | case8 d s hquote hslash hcontrol text' rest hrest ih =>
    cases h
    rw [passString_plain hquote hslash hcontrol]
    exact ih hrest

theorem skipKey_of_stringBody {t u text : List Char} (hs : skipSpace s = '"' :: t)
    (named : stringBody t = .ok (text, u)) (parted : colon u = .ok r) : skipKey s = .ok r := by
  rw [skipKey, hs]
  dsimp only
  rw [if_pos rfl, passString_of_stringBody named]
  exact parted

/-- What is wrong with a number depends on who asks; whether it is one does not. -/
theorem someDigits_of_someDigits {e e' : Error} {text : List Char}
    (h : someDigits e s = .ok (text, r)) : someDigits e' s = .ok (text, r) := by
  cases s with
  | nil => cases h
  | cons c s => exact h

theorem number_of_number {e e' : Error} {text : List Char} (h : number e s = .ok (text, r)) :
    number e' s = .ok (text, r) := by
  have hinteger {s text r : List Char} (h : integerPart e s = .ok (text, r)) :
      integerPart e' s = .ok (text, r) := by
    unfold integerPart at h ⊢
    split at h
    next => exact h
    next => exact someDigits_of_someDigits h
  have hfraction {s text r : List Char} (h : fractionPart e s = .ok (text, r)) :
      fractionPart e' s = .ok (text, r) := by
    unfold fractionPart at h ⊢
    split at h
    next =>
      obtain ⟨⟨digits, t⟩, hdigits, h⟩ := bind_eq_ok.mp h
      exact bind_eq_ok.mpr ⟨_, someDigits_of_someDigits hdigits, h⟩
    next => exact h
  have hexponent {s text r : List Char} (h : exponentPart e s = .ok (text, r)) :
      exponentPart e' s = .ok (text, r) := by
    unfold exponentPart at h ⊢
    split at h
    next => exact h
    next c t =>
      dsimp only
      split_ifs at h ⊢
      · obtain ⟨⟨digits, u⟩, hdigits, h⟩ := bind_eq_ok.mp h
        exact bind_eq_ok.mpr ⟨_, someDigits_of_someDigits hdigits, h⟩
      · exact h
  simp only [number, bind_eq_ok] at h ⊢
  obtain ⟨⟨i, t⟩, hi, ⟨f, u⟩, hf, ⟨x, v⟩, hx, h⟩ := h
  exact ⟨_, hinteger hi, _, hfraction hf, _, hexponent hx, h⟩

theorem skipScalar_of_readNumber {c : Char} {v : Value} (h : Value.readNumber (c :: s) = .ok (v, r))
    (hc : (c = '-' || c.isDigit) = true) : skipScalar c s = .ok r := by
  have hnumber {t text : List Char} (h : number .eofInValue t = .ok (text, r)) :
      (number .invalidNumber t).map Prod.snd = .ok r :=
    map_eq_ok.mpr ⟨_, number_of_number h, rfl⟩
  unfold Value.readNumber at h
  split at h
  next heq =>
    obtain ⟨rfl, rfl⟩ := List.cons.inj heq
    obtain ⟨⟨text, t⟩, htext, h⟩ := bind_eq_ok.mp h
    cases h
    exact hnumber htext
  next hsign =>
    have hminus : c ≠ '-' := fun heq => hsign s (by rw [heq])
    have hdigit : c.isDigit = true := by simpa [hminus] using hc
    obtain ⟨⟨text, t⟩, htext, h⟩ := bind_eq_ok.mp h
    cases h
    rw [skipScalar, if_neg (ne_of_isDigit hdigit rfl), if_neg (ne_of_isDigit hdigit rfl),
      if_neg (ne_of_isDigit hdigit rfl), if_neg hminus, if_pos hdigit]
    exact hnumber htext

theorem skipScalar_of_readScalar {c : Char} {v : Value} (h : Value.readScalar c s = .ok (v, r)) :
    skipScalar c s = .ok r := by
  have hword {expected : List Char} {v' : Value}
      (h : (word expected s).map (v', ·) = .ok (v, r)) : word expected s = .ok r := by
    obtain ⟨t, ht, hpair⟩ := map_eq_ok.mp h
    cases hpair
    exact ht
  unfold Value.readScalar at h
  split_ifs at h with hnull htrue hfalse hnumber hquote
  · rw [skipScalar, if_pos hnull]
    exact hword h
  · rw [skipScalar, if_neg hnull, if_pos htrue]
    exact hword h
  · rw [skipScalar, if_neg hnull, if_neg htrue, if_pos hfalse]
    exact hword h
  · exact skipScalar_of_readNumber h hnumber
  · obtain ⟨⟨text, t⟩, htext, hpair⟩ := map_eq_ok.mp h
    cases hpair
    rw [hquote]
    exact passString_of_stringBody htext

end

/-! ### Lists and objects -/

theorem isSpace_of_skipSpace {s t : List Char} {c : Char} (h : skipSpace s = c :: t) :
    isSpace c = false := by
  have hhead := List.head?_dropWhile_not isSpace s
  rw [← skipSpace, h] at hhead
  exact hhead

theorem endList_eq_ok {s r : List Char} : endList s = .ok r ↔ skipSpace s = ']' :: r := by
  constructor
  · intro h
    unfold endList at h
    split at h
    next => cases h
    next c t hs =>
      split_ifs at h with hclose
      · cases h
        rw [hs, hclose]
      · split at h
        next => cases h
        next => split at h <;> cases h
  · intro h
    rw [endList, h]
    rfl

theorem endObject_eq_ok {s r : List Char} : endObject s = .ok r ↔ skipSpace s = '\x7d' :: r := by
  constructor
  · intro h
    unfold endObject at h
    split at h
    next => cases h
    next c t hs =>
      split_ifs at h with hclose
      cases h
      rw [hs, hclose]
  · intro h
    rw [endObject, h]
    rfl

theorem skipOn_of_nextElement {first more : Bool} {s t : List Char}
    (h : nextElement first s = .ok (more, t)) :
    more = true ∧
      (∀ outer, skipOn (!first) (.list :: outer) s = skipFrom (.list :: outer) t) ∨
    more = false ∧ t = skipSpace s := by
  unfold nextElement at h
  split at h
  next => cases h
  next c u hs =>
    split_ifs at h with hclose hfirst hcomma
    · cases h
      exact .inr ⟨rfl, hs.symm⟩
    · cases h
      rw [hfirst]
      exact .inl ⟨rfl, fun outer => skipOn_first hs hclose rfl⟩
    · split at h
      next => cases h
      next d v hu =>
        split_ifs at h
        cases h
        rw [Bool.not_eq_true] at hfirst
        rw [hfirst]
        refine .inl ⟨rfl, fun outer => ?_⟩
        rw [← hu, skipFrom_skipSpace]
        exact skipOn_further (by rw [hs, hcomma]) rfl

theorem Opens.skipOn_eq {first : Bool} {s t u v name : List Char} (h : Opens first s t)
    (named : stringBody t = .ok (name, u)) (parted : colon u = .ok v) (outer : List Bracket) :
    skipOn (!first) (.object :: outer) s = skipFrom (.object :: outer) v := by
  cases h with
  | first quote =>
    have hkey : skipKey ('"' :: t) = .ok v := skipKey_of_stringBody (by rfl) named parted
    exact skipOn_first quote (by decide) hkey
  | further comma quote => exact skipOn_further comma (skipKey_of_stringBody quote named parted)

namespace Reader

theorem Passes.dispatch {choose : Char → Reader α} (h : ∀ c t a r, isSpace c = false →
    choose c (c :: t) = .ok (a, r) → ∀ outer, skipHere outer c t = skipOn true outer r) :
    Passes (dispatch choose) := by
  intro s a r hread outer
  obtain ⟨c, t, hs, hread⟩ := dispatch_eq_ok.mp hread
  rw [skipFrom_eq hs]
  exact h c t a r (isSpace_of_skipSpace hs) hread outer

theorem Passes.afterColon {read : Reader α} (h : Passes read) :
    PassesMember (afterColon read) := by
  intro s a r hread
  obtain ⟨t, hcolon, hread⟩ := bind_eq_ok.mp hread
  exact ⟨t, hcolon, h t a r hread⟩

theorem Passes.skipValue_eq {read : Reader α} (h : read.Passes) {s r : List Char} {a : α}
    (hread : read s = .ok (a, r)) : skipValue s = .ok r :=
  h s a r hread []

theorem Passes.consumes {read : Reader α} (h : read.Passes) : read.Consumes :=
  fun _ _ _ hread => length_of_skipValue (h.skipValue_eq hread)

/-- Elements are passed over with the bracket that closes them. -/
theorem Passes.elements {read : Reader α} (h : Passes read) {fuel : Nat} {first : Bool}
    {s t r : List Char} {as : List α} (hread : elements read fuel first s = .ok (as, t))
    (hend : endList t = .ok r) (outer : List Bracket) :
    skipOn (!first) (.list :: outer) s = skipOn true outer r := by
  induction fuel generalizing first s as with
  | zero => cases hread
  | succ fuel ih =>
    simp only [Reader.elements, bind_eq_ok] at hread
    obtain ⟨⟨more, u⟩, hnext, hread⟩ := hread
    rcases skipOn_of_nextElement hnext with ⟨rfl, hskip⟩ | ⟨rfl, hu⟩
    · simp only [if_true, bind_eq_ok] at hread
      obtain ⟨⟨a, v⟩, ha, ⟨rest, w⟩, hrest, hread⟩ := hread
      cases hread
      rw [hskip, h u a v ha]
      exact ih hrest
    · cases hread
      rw [endList_eq_ok, hu, skipSpace_skipSpace] at hend
      exact skipOn_close hend

theorem passes_members {step : σ → String → Reader σ}
    (hstep : ∀ acc key, PassesMember (step acc key)) {fuel : Nat} {first : Bool} {acc acc' : σ}
    {s t r : List Char} (hread : members step fuel first acc s = .ok (acc', t))
    (hend : endObject t = .ok r) (outer : List Bracket) :
    skipOn (!first) (.object :: outer) s = skipOn true outer r := by
  induction fuel generalizing first acc s with
  | zero => cases hread
  | succ fuel ih =>
    simp only [members, bind_eq_ok] at hread
    obtain ⟨⟨more, u⟩, hnext, hread⟩ := hread
    rcases nextMember_cases hnext with ⟨rfl, hopens⟩ | ⟨rfl, v, hs, rfl⟩
    · simp only [if_true, bind_eq_ok] at hread
      obtain ⟨⟨name, v⟩, hname, ⟨taken, w⟩, htaken, hread⟩ := hread
      obtain ⟨x, hcolon, hskip⟩ := hstep _ _ _ _ _ htaken
      rw [hopens.skipOn_eq hname hcolon, hskip]
      exact ih hread
    · cases hread
      rw [endObject_eq_ok] at hend
      cases hend
      exact skipOn_close hs

theorem passes_objectBody {step : σ → String → Reader σ}
    (hstep : ∀ acc key, PassesMember (step acc key)) {blank acc : σ} {s r : List Char}
    (hread : objectBody step blank s = .ok (acc, r)) (outer : List Bracket) :
    skipOn false (.object :: outer) s = skipOn true outer r := by
  simp only [objectBody, bind_eq_ok] at hread
  obtain ⟨⟨acc', t⟩, hmembers, u, hend, hread⟩ := hread
  cases hread
  exact passes_members hstep hmembers hend outer

end Reader

/-! ### Decoders -/

theorem skipHere_of_skipScalar {c : Char} {t r : List Char} (hlist : c ≠ '[') (hobject : c ≠ '{')
    (h : skipScalar c t = .ok r) (outer : List Bracket) :
    skipHere outer c t = skipOn true outer r := by
  rw [skipHere, if_neg hlist, if_neg hobject, h]
  rfl

theorem Decoder.passes_text {expected : String} {convert : String → Except Error α} :
    (text expected convert).read.Passes := by
  simp only [text]
  apply Reader.Passes.dispatch
  intro c t a r _ hread
  split_ifs at hread with hquote
  simp only [bind_eq_ok] at hread
  obtain ⟨⟨text, u⟩, hstring, b, -, hread⟩ := hread
  cases hread
  rw [hquote]
  exact skipHere_of_skipScalar (by decide) (by decide) (passString_of_stringBody hstring)

namespace Value

variable {inner : Reader Value} {s u r : List Char} {v : Value}

theorem afterNumberKey?_eq_some (h : afterNumberKey? s = some u) : ∃ t name, Opens true s t ∧
    stringBody t = .ok (name, u) ∧ String.ofList name = numberKey := by
  unfold afterNumberKey? at h
  split at h
  next t hnext =>
    split at h
    next name w hname =>
      split_ifs at h with hkey
      cases h
      rcases nextMember_cases hnext with ⟨-, hopens⟩ | ⟨hmore, -⟩
      · exact ⟨t, name, hopens, hname, hkey⟩
      · cases hmore
    next => cases h
  next => cases h

/-- A number stands behind the number key alone, and members stand behind no number key. -/
theorem objectBody_eq_ok_iff : objectBody inner s = .ok (v, r) ↔
    (∃ u t w, afterNumberKey? s = some u ∧ colon u = .ok t ∧
      Decoder.quotedNumber.read t = .ok (v, w) ∧ endObject w = .ok r) ∨
    (afterNumberKey? s = none ∧
      ∃ ms, Reader.objectBody (member inner) [] s = .ok (ms, r) ∧ v = .object ms) := by
  unfold objectBody
  cases afterNumberKey? s with
  | some u =>
    simp only [bind_eq_ok, Reader.afterColon]
    constructor
    · rintro ⟨⟨n, w⟩, ⟨t, hcolon, hread⟩, r', hend, h⟩
      cases h
      exact .inl ⟨u, t, w, rfl, hcolon, hread, hend⟩
    · rintro (⟨_, t, w, ⟨⟩, hcolon, hread, hend⟩ | ⟨hnone, -⟩)
      · exact ⟨(v, w), ⟨t, hcolon, hread⟩, r, hend, rfl⟩
      · cases hnone
  | none =>
    constructor
    · intro h
      obtain ⟨⟨ms, r'⟩, hbody, hpair⟩ := map_eq_ok.mp h
      cases hpair
      exact .inr ⟨rfl, ms, hbody, rfl⟩
    · rintro (⟨u, t, w, hsome, -⟩ | ⟨-, ms, hbody, rfl⟩)
      · cases hsome
      · exact map_eq_ok.mpr ⟨_, hbody, rfl⟩

theorem passes_objectBody (h : inner.Passes) (hread : objectBody inner s = .ok (v, r))
    (outer : List Bracket) : skipOn false (.object :: outer) s = skipOn true outer r := by
  rcases objectBody_eq_ok_iff.mp hread with ⟨u, t, w, hkey, hcolon, hnumber, hend⟩ | ⟨-, ms, hbody, -⟩
  · obtain ⟨x, name, hopens, hname, -⟩ := afterNumberKey?_eq_some hkey
    have hskip : skipOn false (.object :: outer) s = skipFrom (.object :: outer) t :=
      hopens.skipOn_eq hname hcolon outer
    rw [hskip, Decoder.passes_text _ _ _ hnumber]
    exact skipOn_close (endObject_eq_ok.mp hend)
  · apply Reader.passes_objectBody _ hbody
    intro ms key s ms' r hmember
    obtain ⟨⟨v, t⟩, hv, hpair⟩ := map_eq_ok.mp hmember
    cases hpair
    exact h.afterColon _ _ _ hv

theorem passes_read (depth : Nat) : (Value.read depth).Passes := by
  have hscalar {c : Char} {t r : List Char} {v : Value} (hlist : c ≠ '[') (hobject : c ≠ '{')
      (h : readScalar c t = .ok (v, r)) (outer : List Bracket) :
      skipHere outer c t = skipOn true outer r :=
    skipHere_of_skipScalar hlist hobject (skipScalar_of_readScalar h) outer
  induction depth with
  | zero =>
    apply Reader.Passes.dispatch
    intro c t v r _ hread
    split_ifs at hread with hopen
    rw [Bool.or_eq_true, decide_eq_true_eq, decide_eq_true_eq, not_or] at hopen
    exact hscalar hopen.1 hopen.2 hread
  | succ depth ih =>
    apply Reader.Passes.dispatch
    intro c t v r _ hread outer
    split_ifs at hread with hlist hobject
    · obtain ⟨⟨items, u⟩, hbody, hpair⟩ := map_eq_ok.mp hread
      cases hpair
      simp only [Reader.listBody, bind_eq_ok] at hbody
      obtain ⟨⟨as, w⟩, helements, x, hend, hbody⟩ := hbody
      cases hbody
      rw [skipHere, if_pos hlist]
      exact ih.elements helements hend outer
    · rw [skipHere, if_neg hlist, if_pos hobject]
      exact passes_objectBody ih hread outer
    · exact hscalar hlist hobject hread outer

end Value

namespace Decoder

theorem passes_int64 : int64.read.Passes := by
  simp only [int64]
  apply Reader.Passes.dispatch
  intro c t a r _ hread
  split_ifs at hread with hnumber
  simp only [bind_eq_ok] at hread
  obtain ⟨⟨v, u⟩, hv, b, -, hread⟩ := hread
  cases hread
  have hlist : c ≠ '[' := by
    rintro rfl
    cases hnumber
  have hobject : c ≠ '{' := by
    rintro rfl
    cases hnumber
  exact skipHere_of_skipScalar hlist hobject (skipScalar_of_readNumber hv hnumber)

theorem passes_nullable {d : Decoder α} (h : d.read.Passes) : d.nullable.read.Passes := by
  simp only [nullable]
  apply Reader.Passes.dispatch
  intro c t a r hspace hread outer
  split_ifs at hread with hnull
  · obtain ⟨u, hword, hpair⟩ := map_eq_ok.mp hread
    cases hpair
    have hscalar : skipScalar 'n' t = .ok r := hword
    rw [hnull]
    exact skipHere_of_skipScalar (by decide) (by decide) hscalar outer
  · obtain ⟨⟨b, u⟩, hb, hpair⟩ := map_eq_ok.mp hread
    cases hpair
    rw [← skipFrom_eq (skipSpace_cons hspace t)]
    exact h _ _ _ hb outer

theorem passes_andThen {d : Decoder α} (h : d.read.Passes) (f : α → Except Error β) :
    (d.andThen f).read.Passes := by
  intro s b r hread
  obtain ⟨⟨a, t⟩, ha, hread⟩ := bind_eq_ok.mp hread
  obtain ⟨b', -, hread⟩ := bind_eq_ok.mp hread
  cases hread
  exact h s a r ha

theorem passes_entries {κ : Type} {expected : String} {key : String → Except Error κ}
    {value : Decoder β} {blank : σ} {add : σ → κ → β → Except Error σ} (h : value.read.Passes) :
    (entries expected key value blank add).read.Passes := by
  have hstep (acc : σ) (name : String) :
      Reader.PassesMember (entries.step key value add acc name) := by
    intro s acc' r hread
    simp only [entries.step, bind_eq_ok] at hread
    obtain ⟨k, -, ⟨b, t⟩, hb, taken, -, hread⟩ := hread
    cases hread
    exact h.afterColon _ _ _ hb
  simp only [entries]
  apply Reader.Passes.dispatch
  intro c t acc r _ hread outer
  split_ifs at hread with hobject
  rw [hobject]
  exact Reader.passes_objectBody hstep hread outer

end Decoder

namespace Record

variable {r : Record δ α}

/-- A member that is not known is passed over already. -/
theorem passes_readMember (h : ∀ f ∈ r.fields, f.decoder.read.Passes) (draft : δ) (name : String) :
    Reader.PassesMember (r.readMember draft name) := by
  intro s a rest hread
  unfold readMember at hread
  split at hread
  next f hf =>
    split_ifs at hread
    obtain ⟨⟨set, t⟩, hset, hread⟩ := bind_eq_ok.mp hread
    cases hread
    exact (h f (List.mem_of_find?_eq_some hf)).afterColon _ _ _ hset
  next =>
    simp only [bind_eq_ok] at hread
    obtain ⟨t, hcolon, u, hskip, hread⟩ := hread
    cases hread
    exact ⟨t, hcolon, fun outer => skipFrom_append hskip⟩

theorem passes_readElements {tooShort : String} {fs : List (Field δ)}
    (h : ∀ f ∈ fs, f.decoder.read.Passes) {i : Nat} {first : Bool} {draft draft' : δ}
    {s t rest : List Char} (hread : readElements tooShort fs i first draft s = .ok (draft', t))
    (hend : endList t = .ok rest) (outer : List Bracket) :
    skipOn (!first) (.list :: outer) s = skipOn true outer rest := by
  induction fs generalizing i first draft s with
  | nil =>
    cases hread
    exact skipOn_close (endList_eq_ok.mp hend)
  | cons f fs ih =>
    obtain ⟨hf, hfs⟩ := List.forall_mem_cons.mp h
    simp only [readElements, bind_eq_ok] at hread
    obtain ⟨⟨more, u⟩, hnext, hread⟩ := hread
    rcases skipOn_of_nextElement hnext with ⟨rfl, hskip⟩ | ⟨rfl, hu⟩
    · simp only [if_true, bind_eq_ok] at hread
      obtain ⟨⟨set, v⟩, hset, hread⟩ := hread
      rw [hskip, hf _ _ _ hset]
      exact ih hfs hread
    · simp only [Bool.false_eq_true, if_false] at hread
      split_ifs at hread
      rw [← skipOn_skipSpace, ← hu]
      exact ih hfs hread

theorem passes_read (h : ∀ f ∈ r.fields, f.decoder.read.Passes) : r.decoder.read.Passes := by
  simp only [decoder, Record.read]
  apply Reader.Passes.dispatch
  intro c t a rest _ hread outer
  split_ifs at hread with hobject hlist
  · simp only [bind_eq_ok] at hread
    obtain ⟨⟨draft, u⟩, hmembers, b, -, v, hend, hread⟩ := hread
    cases hread
    rw [hobject]
    exact Reader.passes_members (passes_readMember h) hmembers hend outer
  · simp only [bind_eq_ok] at hread
    obtain ⟨⟨draft, u⟩, helements, b, -, v, hend, hread⟩ := hread
    cases hread
    rw [hlist]
    exact passes_readElements h helements hend outer

end Record

/-- A whole text that is read is passed over, blanks behind it apart. -/
theorem Decoder.skipValue_of_decode {d : Decoder α} (h : d.read.Passes) {text : String} {a : α}
    (hdecode : d.decode text = .ok a) :
    ∃ r, skipValue text.toList = .ok r ∧ skipSpace r = [] := by
  obtain ⟨r, hread, hr⟩ := decode_eq_ok_iff.mp hdecode
  exact ⟨r, h.skipValue_eq hread, hr⟩

end VectorReplay.Json
