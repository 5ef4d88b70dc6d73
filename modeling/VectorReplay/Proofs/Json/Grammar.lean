import VectorReplay.Proofs.Hex.Numeral
import VectorReplay.Proofs.Json.Passing

/-!
The grammar of JSON texts, apart from any reader. What is passed over is a value of this grammar, and
so is whatever is read.
-/
namespace VectorReplay.Json

/-! ### Grammar -/

def Blank (s : List Char) : Prop :=
  ∀ c ∈ s, c ∈ [' ', '\n', '\t', '\r']

def Digits (s : List Char) : Prop :=
  s ≠ [] ∧ ∀ c ∈ s, c.isDigit

/-- Digits that have no zero in front, unless there is one digit only. -/
def IsInteger (s : List Char) : Prop :=
  s = ['0'] ∨ Digits s ∧ s.head? ≠ some '0'

inductive IsFraction : List Char → Prop
  | none : IsFraction []
  | some {digits : List Char} (h : Digits digits) : IsFraction ('.' :: digits)

inductive IsExponent : List Char → Prop
  | none : IsExponent []
  | some {mark : Char} {sign digits : List Char} (marked : mark ∈ ['e', 'E'])
    (signed : sign ∈ [[], ['+'], ['-']]) (h : Digits digits) : IsExponent (mark :: (sign ++ digits))

inductive IsNumber : List Char → Prop
  | intro {sign i f x : List Char} (signed : sign ∈ [[], ['-']]) (integer : IsInteger i)
    (fraction : IsFraction f) (exponent : IsExponent x) : IsNumber (sign ++ (i ++ (f ++ x)))

/-- A string behind its opening quote, with the closing one. An escape by digits may denote half of a
character. -/
inductive IsString : List Char → Prop
  | close : IsString ['"']
  | plain {c : Char} {s : List Char} (quote : c ≠ '"') (slash : c ≠ '\\')
    (control : ¬ c.toNat < 0x20) (further : IsString s) : IsString (c :: s)
  | escape {c : Char} {s : List Char} (h : c ∈ ['"', '\\', '/', 'b', 'f', 'n', 'r', 't'])
    (further : IsString s) : IsString ('\\' :: c :: s)
  | unicode {digits s : List Char} (count : digits.length = 4)
    (h : ∀ c ∈ digits, ∃ n, Hex.IsDigit c n)
    (further : IsString s) : IsString ('\\' :: 'u' :: (digits ++ s))

inductive IsScalar : List Char → Prop
  | null : IsScalar ['n', 'u', 'l', 'l']
  | true : IsScalar ['t', 'r', 'u', 'e']
  | false : IsScalar ['f', 'a', 'l', 's', 'e']
  | number {s : List Char} (h : IsNumber s) : IsScalar s
  | string {s : List Char} (h : IsString s) : IsScalar ('"' :: s)

def Bracket.opening : Bracket → Char
  | .list => '['
  | .object => '{'

mutual

inductive IsValue : List Char → Prop
  | scalar {s : List Char} (h : IsScalar s) : IsValue s
  | bracket {b : Bracket} {s : List Char} (h : Inside false b s) : IsValue (b.opening :: s)

/-- An element of a list or a member of an object, with the blanks in front of it. -/
inductive IsEntry : Bracket → List Char → Prop
  | element {blanks s : List Char} (h : Blank blanks) (value : IsValue s) :
    IsEntry .list (blanks ++ s)
  | member {blanks name behind before s : List Char} (h : Blank blanks) (named : IsString name)
    (hbehind : Blank behind) (hbefore : Blank before) (value : IsValue s) :
    IsEntry .object (blanks ++ '"' :: (name ++ (behind ++ ':' :: (before ++ s))))

/-- What stands inside a bracket, with the closing one; `comma` tells whether an entry stands
before. -/
inductive Inside : (comma : Bool) → Bracket → List Char → Prop
  | close {comma : Bool} {b : Bracket} {blanks : List Char} (h : Blank blanks) :
    Inside comma b (blanks ++ [b.closing])
  | first {b : Bracket} {entry s : List Char} (h : IsEntry b entry) (further : Inside true b s) :
    Inside false b (entry ++ s)
  | further {b : Bracket} {blanks entry s : List Char} (hblanks : Blank blanks) (h : IsEntry b entry)
    (further : Inside true b s) : Inside true b (blanks ++ ',' :: (entry ++ s))

end

/-- One value, and blanks around it. -/
def IsText (s : List Char) : Prop :=
  ∃ before v behind, Blank before ∧ IsValue v ∧ Blank behind ∧ s = before ++ (v ++ behind)

/-! ### Scalars -/

section
variable {s r : List Char}

theorem exists_blank (s : List Char) : ∃ blanks, Blank blanks ∧ s = blanks ++ skipSpace s := by
  refine ⟨s.takeWhile isSpace, fun c hc => ?_, List.takeWhile_append_dropWhile.symm⟩
  have hspace := List.mem_takeWhile_imp hc
  simpa [isSpace, or_assoc] using hspace

theorem exists_blank_of_skipSpace {c : Char} (h : skipSpace s = c :: r) :
    ∃ blanks, Blank blanks ∧ s = blanks ++ c :: r := by
  rw [← h]
  exact exists_blank s

theorem blank_of_skipSpace (h : skipSpace s = []) : Blank s := by
  obtain ⟨blanks, hblanks, hs⟩ := exists_blank s
  rw [h, List.append_nil] at hs
  rwa [hs]

theorem append_of_word {expected : List Char} (h : word expected s = .ok r) : s = expected ++ r := by
  fun_induction word expected s with
  | case1 =>
    cases h
    rfl
  | case2 => cases h
  | case3 cs c s ih => rw [ih h, List.cons_append]
  | case4 => cases h

theorem isDigit_of_charValue {c : Char} {n : Nat} (h : Hex.charValue? c = some n) :
    Hex.IsDigit c n := by
  rw [Hex.charValue?, Option.ite_none_right_eq_some] at h
  obtain ⟨hlt, hvalue⟩ := h
  have hdigit := Hex.isDigit_of_value? ⟨c.toNat, hlt⟩ n hvalue
  rw [show Char.ofNat c.toNat = c from Char.ofNat_toNat c] at hdigit
  exact ⟨(Hex.bounds_of_value? hvalue).1, hdigit⟩

theorem isDigit_of_hexValues {n : Nat} (h : hexValues s = some n) :
    ∀ c ∈ s, ∃ n, Hex.IsDigit c n := by
  unfold hexValues at h
  split at h
  next x y z w =>
    simp only [bind, Option.bind_eq_some_iff] at h
    obtain ⟨a, ha, b, hb, c, hc, d, hd, -⟩ := h
    simp only [List.forall_mem_cons, List.not_mem_nil, false_implies, implies_true, and_true]
    exact ⟨⟨a, isDigit_of_charValue ha⟩, ⟨b, isDigit_of_charValue hb⟩,
      ⟨c, isDigit_of_charValue hc⟩, ⟨d, isDigit_of_charValue hd⟩⟩
  next => cases h

theorem exists_digits_of_hexFour {n : Nat} (h : hexFour s = .ok (n, r)) :
    ∃ digits, digits.length = 4 ∧ (∀ c ∈ digits, ∃ n, Hex.IsDigit c n) ∧ s = digits ++ r := by
  unfold hexFour at h
  split at h
  next hvalues =>
    cases h
    exact ⟨s.take 4, length_of_hexValues hvalues, isDigit_of_hexValues hvalues,
      (List.take_append_drop 4 s).symm⟩
  next => split at h <;> cases h

theorem mem_of_simpleEscape {c : Char} (h : (simpleEscape? c).isSome) :
    c ∈ ['"', '\\', '/', 'b', 'f', 'n', 'r', 't'] := by
  unfold simpleEscape? at h
  split at h <;> first | decide | cases h

theorem exists_isString (h : passString s = .ok r) : ∃ t, IsString t ∧ s = t ++ r := by
  fun_induction passString s with
  | case1 => cases h
  | case2 s =>
    cases h
    exact ⟨['"'], .close, rfl⟩
  | case3 => cases h
  | case4 d s hsimple _ ih =>
    obtain ⟨t, ht, rfl⟩ := ih h
    exact ⟨_, .escape (mem_of_simpleEscape hsimple) ht, rfl⟩
  | case5 => cases h
  | case6 s _ rest hfour _ _ ih =>
    obtain ⟨t, ht, rfl⟩ := ih h
    obtain ⟨digits, hcount, hdigits, rfl⟩ := exists_digits_of_hexFour hfour
    exact ⟨_, .unicode hcount hdigits ht, by simp⟩
  | case7 => cases h
  | case8 => cases h
  | case9 c s hquote hslash hcontrol ih =>
    obtain ⟨t, ht, rfl⟩ := ih h
    exact ⟨_, .plain hquote hslash hcontrol ht, rfl⟩

variable {e : Error} {text : List Char}

theorem digits_of_someDigits (h : someDigits e s = .ok (text, r)) : Digits text ∧ s = text ++ r := by
  unfold someDigits at h
  split at h
  next => cases h
  next c t =>
    split_ifs at h with hdigit
    cases h
    refine ⟨⟨?_, fun d hd => List.mem_takeWhile_imp hd⟩, List.takeWhile_append_dropWhile.symm⟩
    rw [List.takeWhile_cons_of_pos hdigit]
    exact List.cons_ne_nil _ _

theorem isInteger_of_integerPart (h : integerPart e s = .ok (text, r)) :
    IsInteger text ∧ s = text ++ r := by
  unfold integerPart at h
  split at h
  next =>
    split_ifs at h
    cases h
    exact ⟨.inl rfl, rfl⟩
  next hzero =>
    obtain ⟨hdigits, rfl⟩ := digits_of_someDigits h
    refine ⟨.inr ⟨hdigits, fun hhead => ?_⟩, rfl⟩
    obtain ⟨rest, rfl⟩ := List.head?_eq_some_iff.mp hhead
    exact hzero _ rfl

theorem exists_isFraction (h : fractionPart e s = .ok (text, r)) :
    ∃ f, IsFraction f ∧ s = f ++ r := by
  unfold fractionPart at h
  split at h
  next =>
    obtain ⟨⟨digits, t⟩, hdigits, h⟩ := bind_eq_ok.mp h
    cases h
    obtain ⟨hspelled, rfl⟩ := digits_of_someDigits hdigits
    exact ⟨_, .some hspelled, rfl⟩
  next =>
    cases h
    exact ⟨[], .none, rfl⟩

theorem exponentSign_eq (s : List Char) :
    ∃ sign ∈ [[], ['+'], ['-']], s = sign ++ (exponentSign s).2 := by
  unfold exponentSign
  split
  · exact ⟨['+'], by simp, rfl⟩
  · exact ⟨['-'], by simp, rfl⟩
  · exact ⟨[], by simp, rfl⟩

/-- A sign that is read as none is a part of the text all the same. -/
theorem exists_isExponent (h : exponentPart e s = .ok (text, r)) :
    ∃ x, IsExponent x ∧ s = x ++ r := by
  unfold exponentPart at h
  split at h
  next =>
    cases h
    exact ⟨[], .none, rfl⟩
  next c t =>
    obtain ⟨sign, hsign, ht⟩ := exponentSign_eq t
    generalize exponentSign t = signed at h ht
    split_ifs at h with hmark
    · obtain ⟨⟨digits, u⟩, hdigits, h⟩ := bind_eq_ok.mp h
      cases h
      obtain ⟨hspelled, hrest⟩ := digits_of_someDigits hdigits
      have hmarked : c ∈ ['e', 'E'] := by simpa using hmark
      refine ⟨_, .some hmarked hsign hspelled, ?_⟩
      rw [ht, hrest]
      simp
    · cases h
      exact ⟨[], .none, rfl⟩

theorem exists_isNumber {sign : List Char} (hsign : sign ∈ [[], ['-']])
    (h : number e s = .ok (text, r)) : ∃ v, IsNumber v ∧ sign ++ s = v ++ r := by
  simp only [number, bind_eq_ok] at h
  obtain ⟨⟨i, t⟩, hi, ⟨f, u⟩, hf, ⟨x, v⟩, hx, h⟩ := h
  cases h
  obtain ⟨hinteger, rfl⟩ := isInteger_of_integerPart hi
  obtain ⟨f', hfraction, rfl⟩ := exists_isFraction hf
  obtain ⟨x', hexponent, rfl⟩ := exists_isExponent hx
  exact ⟨_, .intro hsign hinteger hfraction hexponent, by simp⟩

theorem exists_isScalar {c : Char} (h : skipScalar c s = .ok r) :
    ∃ v, IsScalar v ∧ c :: s = v ++ r := by
  unfold skipScalar at h
  split_ifs at h with hnull htrue hfalse hminus hdigit hquote
  · exact ⟨_, .null, by rw [hnull, append_of_word h]; rfl⟩
  · exact ⟨_, .true, by rw [htrue, append_of_word h]; rfl⟩
  · exact ⟨_, .false, by rw [hfalse, append_of_word h]; rfl⟩
  · obtain ⟨⟨text, t⟩, hnumber, rfl⟩ := map_eq_ok.mp h
    obtain ⟨v, hv, hs⟩ : ∃ v, IsNumber v ∧ ['-'] ++ s = v ++ t :=
      exists_isNumber (by simp) hnumber
    exact ⟨v, .number hv, by rw [hminus, ← hs]; rfl⟩
  · obtain ⟨⟨text, t⟩, hnumber, rfl⟩ := map_eq_ok.mp h
    obtain ⟨v, hv, hs⟩ : ∃ v, IsNumber v ∧ [] ++ c :: s = v ++ t :=
      exists_isNumber (by simp) hnumber
    exact ⟨v, .number hv, hs⟩
  · obtain ⟨t, ht, rfl⟩ := exists_isString h
    exact ⟨_, .string ht, by rw [hquote]; rfl⟩

end

/-! ### Values -/

/-- What closes brackets that are open, and the text behind them. -/
inductive Closes : (comma : Bool) → List Bracket → (s r : List Char) → Prop
  | nil {comma : Bool} {s : List Char} : Closes comma [] s s
  | cons {comma : Bool} {b : Bracket} {outer : List Bracket} {s t r : List Char}
    (h : Inside comma b s) (further : Closes true outer t r) : Closes comma (b :: outer) (s ++ t) r

/-- A value, and what closes the brackets around it. -/
def Leads (brackets : List Bracket) (s r : List Char) : Prop :=
  ∃ blanks v t, Blank blanks ∧ IsValue v ∧ Closes true brackets t r ∧ s = blanks ++ (v ++ t)

section
variable {b : Bracket} {brackets rest : List Bracket} {comma : Bool} {s t r : List Char}

theorem Blank.append {blanks : List Char} (h : Blank blanks) (hs : Blank s) : Blank (blanks ++ s) :=
  List.forall_mem_append.mpr ⟨h, hs⟩

theorem IsEntry.blank_append {blanks : List Char} (hblanks : Blank blanks) (h : IsEntry b s) :
    IsEntry b (blanks ++ s) := by
  cases h with
  | element h value =>
    rw [← List.append_assoc]
    exact .element (hblanks.append h) value
  | member h named hbehind hbefore value =>
    rw [← List.append_assoc]
    exact .member (hblanks.append h) named hbehind hbefore value

theorem exists_blank_of_colon (h : colon s = .ok r) :
    ∃ blanks, Blank blanks ∧ s = blanks ++ ':' :: r := by
  unfold colon at h
  split at h
  next => cases h
  next c t hc =>
    split_ifs at h with hcolon
    cases h
    rw [← hcolon]
    exact exists_blank_of_skipSpace hc

/-- A value is an entry, with the key in front of it if there is one. -/
theorem exists_isEntry {blanks v : List Char} (h : enter b s = .ok (blanks ++ (v ++ r)))
    (hblanks : Blank blanks) (hvalue : IsValue v) : ∃ entry, IsEntry b entry ∧ s = entry ++ r := by
  cases b with
  | list =>
    cases h
    exact ⟨_, .element hblanks hvalue, (List.append_assoc ..).symm⟩
  | object =>
    simp only [enter, skipKey] at h
    split at h
    next => cases h
    next c t hc =>
      split_ifs at h with hquote
      subst hquote
      obtain ⟨front, hfront, rfl⟩ := exists_blank_of_skipSpace hc
      obtain ⟨u, hu, hcolon⟩ := bind_eq_ok.mp h
      obtain ⟨name, hname, rfl⟩ := exists_isString hu
      obtain ⟨behind, hbehind, rfl⟩ := exists_blank_of_colon hcolon
      exact ⟨_, .member hfront hname hbehind hblanks hvalue, by simp⟩

theorem exists_entry_of_enter {outer : List Bracket} (h : enter b s = .ok t)
    (hleads : Leads (b :: outer) t r) : ∃ entry inside behind, IsEntry b entry ∧
      Inside true b inside ∧ Closes true outer behind r ∧ s = entry ++ (inside ++ behind) := by
  obtain ⟨blanks, v, u, hblanks, hvalue, hcloses, rfl⟩ := hleads
  obtain ⟨entry, hentry, rfl⟩ := exists_isEntry h hblanks hvalue
  cases hcloses with
  | cons hinside houter => exact ⟨entry, _, _, hentry, hinside, houter, rfl⟩

theorem closes_of_closeBrackets (h : closeBrackets brackets comma s = .ok (rest, t))
    (hdone : rest = [] → t = r) (hleads : rest ≠ [] → Leads rest t r) :
    Closes comma brackets s r := by
  fun_induction closeBrackets brackets comma s with
  | case1 comma s =>
    cases h
    rw [hdone rfl]
    exact .nil
  | case2 => cases h
  | case3 b outer comma s c u hs hcomma =>
    obtain ⟨blanks, hblanks, rfl⟩ := exists_blank_of_skipSpace hs
    obtain ⟨v, henter, hpair⟩ := map_eq_ok.mp h
    cases hpair
    rw [Bool.and_eq_true, decide_eq_true_eq] at hcomma
    obtain ⟨rfl, rfl⟩ := hcomma
    obtain ⟨entry, inside, behind, hentry, hinside, houter, rfl⟩ :=
      exists_entry_of_enter henter (hleads (List.cons_ne_nil b outer))
    have hall : blanks ++ ',' :: (entry ++ (inside ++ behind)) =
        blanks ++ ',' :: (entry ++ inside) ++ behind := by
      simp
    rw [hall]
    exact .cons (.further hblanks hentry hinside) houter
  | case4 b outer comma s u hs hcomma ih =>
    obtain ⟨blanks, hblanks, rfl⟩ := exists_blank_of_skipSpace hs
    have hall : blanks ++ b.closing :: u = blanks ++ [b.closing] ++ u := by simp
    rw [hall]
    exact .cons (.close hblanks) (ih h)
  | case5 => cases h
  | case6 b outer comma s c u hs hcomma hclose hfirst =>
    obtain ⟨blanks, hblanks, rfl⟩ := exists_blank_of_skipSpace hs
    obtain ⟨v, henter, hpair⟩ := map_eq_ok.mp h
    cases hpair
    obtain rfl : comma = false := by simpa using hfirst
    obtain ⟨entry, inside, behind, hentry, hinside, houter, hu⟩ :=
      exists_entry_of_enter henter (hleads (List.cons_ne_nil b outer))
    have hall : blanks ++ c :: u = blanks ++ entry ++ inside ++ behind := by
      rw [hu]
      simp
    rw [hall]
    exact .cons (.first (hentry.blank_append hblanks) hinside) houter

theorem closes_of_skipOn (hleads : ∀ rest t, closeBrackets brackets comma s = .ok (rest, t) →
    rest ≠ [] → skipFrom rest t = .ok r → Leads rest t r)
    (h : skipOn comma brackets s = .ok r) : Closes comma brackets s r := by
  obtain ⟨⟨rest, t⟩, hclosed, h⟩ := bind_eq_ok.mp h
  cases rest with
  | nil =>
    cases h
    exact closes_of_closeBrackets hclosed (fun _ => rfl) fun hne => absurd rfl hne
  | cons b rest =>
    have hne := List.cons_ne_nil b rest
    exact closes_of_closeBrackets hclosed (fun heq => absurd heq hne)
      fun _ => hleads _ t hclosed hne h

/-- Passing over text is passing over a value and what closes the brackets around it. -/
theorem leads_of_skipFrom (h : skipFrom brackets s = .ok r) : Leads brackets s r := by
  induction hn : s.length using Nat.strongRecOn generalizing brackets s with
  | ind n ih =>
    cases hs : skipSpace s with
    | nil =>
      rw [skipFrom_of_blank hs] at h
      cases h
    | cons c t =>
      have hlt := length_of_skipSpace hs
      obtain ⟨blanks, hblanks, hall⟩ := exists_blank_of_skipSpace hs
      have hopened {b : Bracket} (hc : c = b.opening)
          (h : skipOn false (b :: brackets) t = .ok r) : Leads brackets s r := by
        have hcloses : Closes false (b :: brackets) t r := by
          refine closes_of_skipOn (fun rest u hclosed _ hu => ?_) h
          have hle := length_of_closeBrackets hclosed
          exact ih u.length (by omega) hu rfl
        cases hcloses with
        | cons hinside houter =>
          exact ⟨blanks, _, _, hblanks, .bracket hinside, houter, by rw [hall, hc]; rfl⟩
      rw [skipFrom_eq hs, skipHere] at h
      split_ifs at h with hlist hobject
      · exact hopened (b := .list) hlist h
      · exact hopened (b := .object) hobject h
      · obtain ⟨u, hu, h⟩ := bind_eq_ok.mp h
        obtain ⟨v, hv, hscalar⟩ := exists_isScalar hu
        have hcloses : Closes true brackets u r := by
          refine closes_of_skipOn (fun rest w hclosed hne hw => ?_) h
          have hlt' := length_lt_of_closeBrackets hclosed hne
          have hle := length_of_skipScalar hu
          rw [List.length_cons] at hle
          exact ih w.length (by omega) hw rfl
        exact ⟨blanks, v, u, hblanks, .scalar hv, hcloses, by rw [hall, hscalar]⟩

end

theorem isText_of_skipValue {s r : List Char} (h : skipValue s = .ok r) (hr : skipSpace r = []) :
    IsText s := by
  have hleads : Leads [] s r := leads_of_skipFrom h
  obtain ⟨blanks, v, t, hblanks, hv, hcloses, rfl⟩ := hleads
  cases hcloses
  exact ⟨blanks, v, r, hblanks, hv, blank_of_skipSpace hr, rfl⟩

/-- Only texts of the grammar are decoded. -/
theorem Decoder.isText_of_decode {α : Type} {d : Decoder α} (h : d.read.Passes) {text : String} {a : α}
    (hdecode : d.decode text = .ok a) : IsText text.toList := by
  obtain ⟨r, hskip, hr⟩ := skipValue_of_decode h hdecode
  exact isText_of_skipValue hskip hr

end VectorReplay.Json
