import VectorReplay.Hex.Basic

/-!
Reading hexadecimal undoes writing it, whatever the case of the letters and whichever mark stands in
front.
-/
namespace VectorReplay.Hex

/-- The digits of a byte string up to the case of letters. -/
def Spells (s : List Char) (b : Bytes) : Prop :=
  s.map Char.toLower = digits b

theorem digits_cons (x : UInt8) (b : Bytes) :
    digits (x :: b) = digit (x.toNat / 16) :: digit (x.toNat % 16) :: digits b := rfl

theorem length_digits (b : Bytes) : (digits b).length = 2 * b.length := by
  induction b with
  | nil => rfl
  | cons x b ih =>
    rw [digits_cons, List.length_cons, List.length_cons, ih, List.length_cons]
    omega

@[simp] theorem spells_nil {s : List Char} : Spells s [] ↔ s = [] :=
  List.map_eq_nil_iff

theorem spells_cons {s : List Char} {x : UInt8} {b : Bytes} : Spells s (x :: b) ↔
    ∃ c d rest, s = c :: d :: rest ∧ c.toLower = digit (x.toNat / 16) ∧
      d.toLower = digit (x.toNat % 16) ∧ Spells rest b := by
  simp only [Spells, digits_cons, List.map_eq_cons_iff]
  constructor
  · rintro ⟨c, _, rfl, hc, d, rest, rfl, hd, hrest⟩
    exact ⟨c, d, rest, rfl, hc, hd, hrest⟩
  · rintro ⟨c, d, rest, rfl, hc, hd, hrest⟩
    exact ⟨c, _, rfl, hc, d, rest, rfl, hd, hrest⟩

theorem value?_of_lower : ∀ (n : Fin 16) (k : Fin 128),
    (Char.ofNat k).toLower = digit n → value? (UInt8.ofNat k) = some n.val := by
  decide +kernel

theorem digit_lt : ∀ n : Fin 16, (digit n).toNat < 128 := by
  decide

theorem toLower_digit : ∀ n : Fin 16, (digit n).toLower = digit n := by
  decide

theorem exists_digit_of_mem {b : Bytes} {c : Char} (h : c ∈ digits b) : ∃ n : Fin 16, c = digit n := by
  obtain ⟨x, -, hc⟩ := List.mem_flatMap.mp h
  have hx : x.toNat < 256 := x.toNat_lt
  simp only [List.mem_cons, List.not_mem_nil, or_false] at hc
  rcases hc with rfl | rfl
  · exact ⟨⟨x.toNat / 16, by omega⟩, rfl⟩
  · exact ⟨⟨x.toNat % 16, by omega⟩, rfl⟩

theorem half_lt (x : UInt8) : x.toNat / 16 < 16 ∧ x.toNat % 16 < 16 := by
  have hx : x.toNat < 256 := x.toNat_lt
  omega

theorem spells_digits (b : Bytes) : Spells (digits b) b := by
  induction b with
  | nil => rfl
  | cons x b ih =>
    obtain ⟨hhigh, hlow⟩ := half_lt x
    exact spells_cons.mpr ⟨_, _, _, rfl, toLower_digit ⟨_, hhigh⟩, toLower_digit ⟨_, hlow⟩, ih⟩

theorem toNat_le_toLower (c : Char) : c.toNat ≤ c.toLower.toNat := by
  by_cases h : c.val ≥ 65 ∧ c.val ≤ 90
  · have hlow : c.val.toNat ≤ 90 := UInt32.le_iff_toNat_le.mp h.2
    have h32 : (32 : UInt32).toNat = 32 := rfl
    have hval : c.toLower.val = c.val + 32 := congrArg Char.val (dif_pos h)
    change c.val.toNat ≤ c.toLower.val.toNat
    rw [hval, UInt32.toNat_add]
    omega
  · have hval : c.toLower = c := dif_neg h
    exact Nat.le_of_eq (congrArg Char.toNat hval.symm)

theorem utf8EncodeChar_of_lt {c : Char} (hc : c.toNat < 128) :
    String.utf8EncodeChar c = [UInt8.ofNat c.toNat] := by
  have hval : c.val.toNat ≤ 127 := Nat.le_of_lt_succ hc
  simp only [String.utf8EncodeChar, hval, ↓reduceIte]
  rfl

/-- A digit of either case is one byte that has the value of the digit. -/
theorem byte_of_lower {c : Char} {n : Nat} (hn : n < 16) (h : c.toLower = digit n) :
    String.utf8EncodeChar c = [UInt8.ofNat c.toNat] ∧ value? (UInt8.ofNat c.toNat) = some n := by
  have hc : c.toNat < 128 := by
    have hle := toNat_le_toLower c
    rw [h] at hle
    exact Nat.lt_of_le_of_lt hle (digit_lt ⟨n, hn⟩)
  have hofNat : Char.ofNat c.toNat = c := Char.ofNat_toNat c
  exact ⟨utf8EncodeChar_of_lt hc,
    value?_of_lower ⟨n, hn⟩ ⟨c.toNat, hc⟩ (by simpa only [hofNat] using h)⟩

/-- A digit of either case is one byte of text. -/
theorem utf8_of_lower {c : Char} {n : Nat} (hn : n < 16) (h : c.toLower = digit n) (s : List Char) :
    Text.utf8 (c :: s) = UInt8.ofNat c.toNat :: Text.utf8 s := by
  have hcons : Text.utf8 (c :: s) = String.utf8EncodeChar c ++ Text.utf8 s := rfl
  rw [hcons, (byte_of_lower hn h).1]
  rfl

/-- The bytes of a spelling, two digits for each byte that it spells. -/
theorem utf8_of_spells {s : List Char} {x : UInt8} {b : Bytes} (h : Spells s (x :: b)) :
    ∃ high low rest, Text.utf8 s = high :: low :: Text.utf8 rest ∧
      value? high = some (x.toNat / 16) ∧ value? low = some (x.toNat % 16) ∧ Spells rest b := by
  obtain ⟨c, d, rest, rfl, hc, hd, hrest⟩ := spells_cons.mp h
  obtain ⟨hhigh, hlow⟩ := half_lt x
  refine ⟨_, _, rest, ?_, (byte_of_lower hhigh hc).2, (byte_of_lower hlow hd).2, hrest⟩
  rw [utf8_of_lower hhigh hc, utf8_of_lower hlow hd]

/-- Both halves of a byte make up the byte. -/
theorem ofNat_halves (x : UInt8) : UInt8.ofNat (16 * (x.toNat / 16) + x.toNat % 16) = x := by
  rw [Nat.div_add_mod, UInt8.ofNat_toNat]

theorem pairs_utf8 {s : List Char} {b : Bytes} (h : Spells s b) (i : Nat) :
    pairs i (Text.utf8 s) = .ok b ∧ (Text.utf8 s).length = 2 * b.length := by
  induction b generalizing s i with
  | nil =>
    obtain rfl := spells_nil.mp h
    exact ⟨rfl, rfl⟩
  | cons x b ih =>
    obtain ⟨high, low, rest, hutf, hhigh, hlow, hrest⟩ := utf8_of_spells h
    obtain ⟨hpairs, hlength⟩ := ih hrest (i + 2)
    rw [hutf]
    constructor
    · simp only [pairs, hhigh, hlow, hpairs, bind, Except.bind, pure, Except.pure, ofNat_halves]
    · simp only [List.length_cons, hlength]
      omega

theorem decodeBytes_of_spells {s : List Char} {b : Bytes} (h : Spells s b) :
    decodeBytes (Text.utf8 s) = .ok b := by
  obtain ⟨hpairs, hlength⟩ := pairs_utf8 h 0
  rw [decodeBytes, if_neg (by omega), hpairs]

/-- A spelling has no byte that is not a digit. -/
theorem exists_value_of_spells {s : List Char} {b : Bytes} (h : Spells s b) :
    ∀ y ∈ Text.utf8 s, ∃ n, value? y = some n := by
  induction b generalizing s with
  | nil =>
    obtain rfl := spells_nil.mp h
    exact fun y hy => absurd hy List.not_mem_nil
  | cons x b ih =>
    obtain ⟨high, low, rest, hutf, hhigh, hlow, hrest⟩ := utf8_of_spells h
    rw [hutf]
    exact List.forall_mem_cons.mpr ⟨⟨_, hhigh⟩, List.forall_mem_cons.mpr ⟨⟨_, hlow⟩, ih hrest⟩⟩

/-- No digit is the second character of a mark. -/
theorem unmark_of_spells {s : List Char} {b : Bytes} (h : Spells s b) : unmark s = s := by
  have hsecond (c d : Char) (rest : List Char) (hs : s = c :: d :: rest) :
      ∃ n < 16, d.toLower = digit n := by
    cases b with
    | nil =>
      rw [spells_nil.mp h] at hs
      cases hs
    | cons x b =>
      obtain ⟨_, _, _, hcons, -, hd, -⟩ := spells_cons.mp h
      cases hs.symm.trans hcons
      exact ⟨_, (half_lt x).2, hd⟩
  unfold unmark
  split
  next rest =>
    obtain ⟨n, hn, hd⟩ := hsecond '0' 'x' rest rfl
    exact absurd (byte_of_lower hn hd).2 (by simp [value?])
  next rest =>
    obtain ⟨n, hn, hd⟩ := hsecond '0' 'X' rest rfl
    exact absurd (byte_of_lower hn hd).2 (by simp [value?])
  next => rfl

theorem toList_mark (s : List Char) : ("0x" ++ String.ofList s).toList = '0' :: 'x' :: s := by
  simp only [String.toList_append, String.toList_ofList]
  rfl

/-- Nothing, `0x` or `0X`. -/
def IsMark (mark : List Char) : Prop :=
  mark = [] ∨ mark = ['0', 'x'] ∨ mark = ['0', 'X']

theorem unmark_append {mark s : List Char} {b : Bytes} (hm : IsMark mark) (h : Spells s b) :
    unmark (mark ++ s) = s := by
  rcases hm with rfl | rfl | rfl
  · exact unmark_of_spells h
  · rfl
  · rfl

theorem decode_stripMark {mark s : List Char} {b : Bytes} (hm : IsMark mark) (h : Spells s b) :
    decode (stripMark (String.ofList (mark ++ s))) = .ok b := by
  rw [stripMark, String.toList_ofList, unmark_append hm h, decode, String.toList_ofList,
    decodeBytes_of_spells h]

/-- Behind a mark, a spelling of a byte string reads back. -/
theorem decode_behind_mark {s : List Char} {b : Bytes} (h : Spells s b) :
    decode (stripMark ("0x" ++ String.ofList s)) = .ok b := by
  have htext : "0x" ++ String.ofList s = String.ofList (['0', 'x'] ++ s) := by
    rw [String.ofList_append]
  rw [htext]
  exact decode_stripMark (Or.inr (Or.inl rfl)) h

theorem decode_marked (b : Bytes) : decode (stripMark (marked b)) = .ok b :=
  decode_behind_mark (spells_digits b)

end VectorReplay.Hex
