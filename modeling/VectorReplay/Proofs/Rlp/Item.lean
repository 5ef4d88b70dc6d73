import VectorReplay.Rlp.Split
import VectorReplay.Proofs.Bytes

/-!
The grammar of RLP items. An item is well formed as soon as its header is: what a list holds is
looked at only when the list is split. Reading the first item and splitting a payload accept exactly
this grammar.
-/
namespace VectorReplay.Rlp

/-- What stands before a payload of `n` bytes: a first byte that tells the length up to 55, or one
that counts the digits of a larger length, and these digits. -/
inductive Header (base : UInt8) : (header : Bytes) → (n : Nat) → Prop
  | short {n : Nat} (small : n ≤ 55) : Header base [base + UInt8.ofNat n] n
  | long {digits : Bytes} (count : digits.length ≤ 8) (lead : digits.head? ≠ some 0)
      (large : 55 < Bytes.toNat digits) :
      Header base ((base + 55 + UInt8.ofNat digits.length) :: digits) (Bytes.toNat digits)

/-- A payload behind its header. -/
def Framed (base : UInt8) (item body : Bytes) : Prop :=
  ∃ header, Header base header body.length ∧ item = header ++ body

/-- An item that holds a byte string; bytes below `0x80` may stand for themselves. -/
inductive IsString : (item held : Bytes) → Prop
  | byte {x : UInt8} (small : x < 0x80) : IsString [x] [x]
  | framed {item held : Bytes} (frame : Framed 0x80 item held) : IsString item held

inductive WellFormed (item : Bytes) : Prop
  | string {held : Bytes} (h : IsString item held)
  | list {body : Bytes} (h : Framed 0xC0 item body)

/-- A list that is filled by well-formed items. -/
structure IsList (b : Bytes) (items : List Bytes) : Prop where
  frame : Framed 0xC0 b items.flatten
  wellFormed : ∀ x ∈ items, WellFormed x

namespace Extent

theorem declared_cons (x : UInt8) (rest : Bytes) :
    declared (x :: rest) =
      if x.toNat < 128 then .ok ⟨0, 1⟩
      else if x.toNat < 184 then .ok ⟨1, x.toNat - 128⟩
      else if x.toNat < 192 then long (x.toNat - 183) rest
      else if x.toNat < 248 then .ok ⟨1, x.toNat - 192⟩
      else long (x.toNat - 247) rest := by
  simp only [declared, UInt8.lt_iff_toNat_lt]
  rfl

theorem long_eq_ok_iff {k : Nat} {rest : Bytes} {e : Extent} :
    long k rest = .ok e ↔ ∃ digits tail, rest = digits ++ tail ∧ digits.length = k ∧
      digits.head? ≠ some 0 ∧ 55 < Bytes.toNat digits ∧ e = ⟨1 + k, Bytes.toNat digits⟩ := by
  constructor
  · intro h
    cases rest with
    | nil => simp [long] at h
    | cons x rest =>
      simp only [long] at h
      split_ifs at h with hx hk hn
      cases h
      refine ⟨(x :: rest).take k, (x :: rest).drop k, (List.take_append_drop _ _).symm,
        List.length_take_of_le (by omega), ?_, by omega, rfl⟩
      cases k with
      | zero => simp
      | succ k => simpa using hx
  · rintro ⟨digits, tail, rfl, rfl, hlead, hlarge, rfl⟩
    cases digits with
    | nil => simp at hlarge
    | cons x digits =>
      have hx : x ≠ 0 := by simpa using hlead
      have htake : (x :: (digits ++ tail)).take (digits.length + 1) = x :: digits := by simp
      simp only [List.cons_append, long, if_neg hx, List.length_cons, htake]
      rw [if_neg (by simp), if_neg (by omega)]

end Extent

/-- Strings and lists differ in the first byte that their headers count from. -/
def IsBase (base : UInt8) : Prop := base = 0x80 ∨ base = 0xC0

theorem IsBase.toNat {base : UInt8} (h : IsBase base) :
    base.toNat = 128 ∨ base.toNat = 192 := by
  rcases h with rfl | rfl
  · exact .inl rfl
  · exact .inr rfl

theorem IsBase.toNat_short {base : UInt8} {n : Nat} (hb : IsBase base) (hn : n ≤ 55) :
    (base + UInt8.ofNat n).toNat = base.toNat + n := by
  have := hb.toNat
  rw [UInt8.toNat_add, UInt8.toNat_ofNat']
  omega

theorem IsBase.toNat_long {base : UInt8} {k : Nat} (hb : IsBase base) (hk : k ≤ 8) :
    (base + 55 + UInt8.ofNat k).toNat = base.toNat + 55 + k := by
  have := hb.toNat
  have h55 : (55 : UInt8).toNat = 55 := rfl
  rw [UInt8.toNat_add, UInt8.toNat_add, UInt8.toNat_ofNat', h55]
  omega

/-- Behind the first byte of a large length come its digits. -/
theorem declared_long {base : UInt8} {digits : Bytes} (hb : IsBase base) (hpos : digits ≠ [])
    (hcount : digits.length ≤ 8) (rest : Bytes) :
    Extent.declared ((base + 55 + UInt8.ofNat digits.length) :: rest) =
      Extent.long digits.length rest := by
  have hlength := List.length_pos_iff.mpr hpos
  rw [Extent.declared_cons, hb.toNat_long hcount]
  rcases hb.toNat with hb | hb <;> rw [hb]
  · rw [if_neg (by omega), if_neg (by omega), if_pos (by omega),
      show 128 + 55 + digits.length - 183 = digits.length by omega]
  · rw [if_neg (by omega), if_neg (by omega), if_neg (by omega), if_neg (by omega),
      show 192 + 55 + digits.length - 247 = digits.length by omega]

theorem Header.length_pos {base : UInt8} {header : Bytes} {n : Nat} (h : Header base header n) :
    0 < header.length := by
  cases h <;> simp

/-- Eight length digits are the most there can be. -/
theorem Header.lt {base : UInt8} {header : Bytes} {n : Nat} (h : Header base header n) :
    n < 2 ^ 64 := by
  cases h with
  | short small => omega
  | @long digits count _ _ =>
    calc Bytes.toNat digits < 256 ^ digits.length := Bytes.toNat_lt digits
      _ ≤ 256 ^ 8 := Nat.pow_le_pow_right (by omega) count
      _ = 2 ^ 64 := by norm_num

theorem Header.declared {base : UInt8} {header : Bytes} {n : Nat} (hb : IsBase base)
    (h : Header base header n) (rest : Bytes) :
    Extent.declared (header ++ rest) = .ok ⟨header.length, n⟩ := by
  cases h with
  | short small =>
    rw [List.singleton_append, Extent.declared_cons, hb.toNat_short small]
    rcases hb.toNat with hb | hb <;> rw [hb]
    · rw [if_neg (by omega), if_pos (by omega), Nat.add_sub_cancel_left]
      rfl
    · rw [if_neg (by omega), if_neg (by omega), if_neg (by omega), if_pos (by omega),
        Nat.add_sub_cancel_left]
      rfl
  | @long digits count lead large =>
    have hpos : digits ≠ [] := by
      rintro rfl
      simp at large
    rw [List.cons_append, declared_long hb hpos count, List.length_cons]
    exact Extent.long_eq_ok_iff.mpr ⟨digits, rest, rfl, rfl, lead, large, by rw [Nat.add_comm]⟩

/-- What declares a payload is a single byte that stands for itself or a header. -/
theorem header_of_declared {b : Bytes} {e : Extent} (h : Extent.declared b = .ok e) :
    (∃ x rest, b = x :: rest ∧ x < 0x80 ∧ e = ⟨0, 1⟩) ∨
      ∃ base header rest, IsBase base ∧ Header base header e.payload ∧
        e.header = header.length ∧ b = header ++ rest := by
  cases b with
  | nil => simp [Extent.declared] at h
  | cons x rest =>
    have hx : x.toNat < 256 := x.toNat_lt
    have hshort (base : UInt8) (n : Nat) (hb : IsBase base) (hn : n ≤ 55)
        (hbase : x.toNat = base.toNat + n) : Header base [x] n := by
      have heq : x = base + UInt8.ofNat n :=
        UInt8.toNat_inj.mp (by rw [hb.toNat_short hn, hbase])
      rw [heq]
      exact .short hn
    have hlong (base : UInt8) (k : Nat) (hb : IsBase base) (hk : k ≤ 8)
        (hbase : x.toNat = base.toNat + 55 + k) (hl : Extent.long k rest = .ok e) :
        ∃ header tail, Header base header e.payload ∧ e.header = header.length ∧
          x :: rest = header ++ tail := by
      obtain ⟨digits, tail, rfl, rfl, hlead, hlarge, rfl⟩ := Extent.long_eq_ok_iff.mp hl
      have heq : x = base + 55 + UInt8.ofNat digits.length :=
        UInt8.toNat_inj.mp (by rw [hb.toNat_long hk, hbase])
      refine ⟨x :: digits, tail, ?_, by simp [Nat.add_comm], by simp⟩
      rw [heq]
      exact .long hk hlead hlarge
    rw [Extent.declared_cons] at h
    split_ifs at h with h1 h2 h3 h4
    · cases h
      exact .inl ⟨x, rest, rfl, UInt8.lt_iff_toNat_lt.mpr h1, rfl⟩
    · cases h
      have hh := hshort 0x80 (x.toNat - 128) (.inl rfl) (by omega)
        (by change x.toNat = 128 + _; omega)
      exact .inr ⟨0x80, [x], rest, .inl rfl, hh, rfl, rfl⟩
    · obtain ⟨header, tail, hh, he, hb⟩ :=
        hlong 0x80 _ (.inl rfl) (by omega) (by change x.toNat = 128 + 55 + _; omega) h
      exact .inr ⟨0x80, header, tail, .inl rfl, hh, he, hb⟩
    · cases h
      have hh := hshort 0xC0 (x.toNat - 192) (.inr rfl) (by omega)
        (by change x.toNat = 192 + _; omega)
      exact .inr ⟨0xC0, [x], rest, .inr rfl, hh, rfl, rfl⟩
    · obtain ⟨header, tail, hh, he, hb⟩ :=
        hlong 0xC0 _ (.inr rfl) (by omega) (by change x.toNat = 192 + 55 + _; omega) h
      exact .inr ⟨0xC0, header, tail, .inr rfl, hh, he, hb⟩

/-! ### The first item of a byte string -/

theorem Framed.lt {base : UInt8} {item body : Bytes} (h : Framed base item body) :
    body.length < 2 ^ 64 := by
  obtain ⟨header, hh, rfl⟩ := h
  exact hh.lt

theorem Framed.length_lt {base : UInt8} {item body : Bytes} (h : Framed base item body) :
    body.length < item.length := by
  obtain ⟨header, hh, rfl⟩ := h
  have := hh.length_pos
  simp only [List.length_append]
  omega

theorem read_of_declared {b : Bytes} {e : Extent} (h : Extent.declared b = .ok e)
    (hle : e.total ≤ b.length) : Extent.read b = .ok e := by
  simp [Extent.read, h, hle]

theorem Framed.read {base : UInt8} {item body : Bytes} (hb : IsBase base)
    (h : Framed base item body) (rest : Bytes) :
    Extent.read (item ++ rest) = .ok ⟨item.length - body.length, body.length⟩ := by
  obtain ⟨header, hh, rfl⟩ := h
  rw [List.append_assoc, List.length_append, Nat.add_sub_cancel]
  apply read_of_declared (hh.declared hb _)
  simp only [Extent.total, List.length_append]
  omega

theorem Framed.payload {base : UInt8} {item body : Bytes} (hb : IsBase base)
    (h : Framed base item body) (rest : Bytes) : payload (item ++ rest) = .ok body := by
  rw [Rlp.payload, h.read hb]
  obtain ⟨header, hh, rfl⟩ := h
  simp [bind, Except.bind, pure, Except.pure]

/-- The first byte tells strings from lists. -/
theorem Header.isList {base : UInt8} {header : Bytes} {n : Nat} (hb : IsBase base)
    (h : Header base header n) (rest : Bytes) :
    isList (header ++ rest) = decide (base = 0xC0) := by
  have hfirst (x : UInt8) (tail : Bytes) (hlow : base.toNat ≤ x.toNat)
      (hhigh : x.toNat ≤ base.toNat + 63) :
      Rlp.isList (x :: tail) = decide (base = 0xC0) := by
    rw [Rlp.isList, decide_eq_decide, UInt8.le_iff_toNat_le]
    change 192 ≤ x.toNat ↔ _
    rcases hb with rfl | rfl
    · change 128 ≤ x.toNat at hlow
      change x.toNat ≤ 128 + 63 at hhigh
      simp only [iff_false_right (show ¬ (0x80 : UInt8) = 0xC0 by decide)]
      omega
    · simpa using hlow
  cases h with
  | short small =>
    have hx := hb.toNat_short small
    exact hfirst _ _ (by omega) (by omega)
  | long count _ _ =>
    have hx := hb.toNat_long count
    exact hfirst _ _ (by omega) (by omega)

theorem Framed.isList {base : UInt8} {item body : Bytes} (hb : IsBase base)
    (h : Framed base item body) (rest : Bytes) :
    isList (item ++ rest) = decide (base = 0xC0) := by
  obtain ⟨header, hh, rfl⟩ := h
  rw [List.append_assoc, hh.isList hb]

theorem IsString.length_le {item held : Bytes} (h : IsString item held) :
    held.length ≤ item.length := by
  cases h with
  | byte => exact le_rfl
  | framed frame => exact frame.length_lt.le

theorem IsString.read {item held : Bytes} (h : IsString item held) (rest : Bytes) :
    Extent.read (item ++ rest) = .ok ⟨item.length - held.length, held.length⟩ := by
  cases h with
  | @byte x small =>
    apply read_of_declared
    · simp [Extent.declared, small]
    · simp [Extent.total]
  | framed frame => exact frame.read (.inl rfl) rest

theorem IsString.payload {item held : Bytes} (h : IsString item held) (rest : Bytes) :
    payload (item ++ rest) = .ok held := by
  rw [Rlp.payload, h.read]
  cases h with
  | byte => simp [bind, Except.bind, pure, Except.pure]
  | framed frame =>
    obtain ⟨header, hh, rfl⟩ := frame
    simp [bind, Except.bind, pure, Except.pure]

theorem IsString.isList {item held : Bytes} (h : IsString item held) (rest : Bytes) :
    isList (item ++ rest) = false := by
  cases h with
  | @byte x small =>
    have hx : x.toNat < 128 := UInt8.lt_iff_toNat_lt.mp small
    have hle : ¬ (0xC0 : UInt8) ≤ x := by
      rw [UInt8.le_iff_toNat_le]
      change ¬ 192 ≤ x.toNat
      omega
    simpa [Rlp.isList] using hle
  | framed frame => exact frame.isList (.inl rfl) rest

/-- Reading finds a well-formed item in front. -/
theorem IsString.isList_self {item held : Bytes} (h : IsString item held) :
    Rlp.isList item = false := by
  simpa using h.isList []

theorem Framed.isList_self {item body : Bytes} (h : Framed 0xC0 item body) :
    Rlp.isList item = true := by
  simpa using h.isList (.inr rfl) []

theorem item_of_read {b : Bytes} {e : Extent} (h : Extent.read b = .ok e) :
    ∃ item held rest, b = item ++ rest ∧ e.total = item.length ∧
      (IsString item held ∨ Framed 0xC0 item held) := by
  obtain ⟨hdecl, hle⟩ := Extent.read_eq_ok h
  rcases header_of_declared hdecl with
    ⟨x, rest, rfl, hx, rfl⟩ | ⟨base, header, rest, hb, hh, he, rfl⟩
  · exact ⟨[x], [x], rest, rfl, rfl, .inl (.byte hx)⟩
  · have hbody : (rest.take e.payload).length = e.payload := by
      simp only [Extent.total, he, List.length_append] at hle
      exact List.length_take_of_le (by omega)
    have hframe : Framed base (header ++ rest.take e.payload) (rest.take e.payload) :=
      ⟨header, by rw [hbody]; exact hh, rfl⟩
    refine ⟨header ++ rest.take e.payload, rest.take e.payload, rest.drop e.payload, by simp,
      by rw [List.length_append, hbody, Extent.total, he], ?_⟩
    rcases hb with rfl | rfl
    · exact .inl (.framed hframe)
    · exact .inr hframe

theorem WellFormed.read {item : Bytes} (h : WellFormed item) (rest : Bytes) :
    ∃ e, Extent.read (item ++ rest) = .ok e ∧ e.total = item.length := by
  cases h with
  | string h => exact ⟨_, h.read rest, Nat.sub_add_cancel h.length_le⟩
  | list h => exact ⟨_, h.read (.inr rfl) rest, Nat.sub_add_cancel h.length_lt.le⟩

theorem WellFormed.read_self {item : Bytes} (h : WellFormed item) :
    ∃ e, Extent.read item = .ok e ∧ e.total = item.length := by
  simpa using h.read []

theorem wellFormed_of_read {b : Bytes} {e : Extent} (h : Extent.read b = .ok e) :
    WellFormed (b.take e.total) := by
  obtain ⟨item, held, rest, rfl, htotal, hitem⟩ := item_of_read h
  rw [htotal, List.take_left]
  rcases hitem with hs | hl
  · exact .string hs
  · exact .list hl

theorem wellFormed_of_read_all {b : Bytes} {e : Extent} (h : Extent.read b = .ok e)
    (hle : b.length ≤ e.total) : WellFormed b := by
  have hw := wellFormed_of_read h
  rwa [List.take_of_length_le hle] at hw

theorem WellFormed.ne_nil {item : Bytes} (h : WellFormed item) : item ≠ [] := by
  rintro rfl
  obtain ⟨e, he, htotal⟩ := h.read []
  have := Extent.total_pos_of_read he
  simp [htotal] at this

/-! ### Splitting -/

theorem split_cons {x rest : Bytes} (h : WellFormed x) :
    split (x ++ rest) = (split rest).map (x :: ·) := by
  obtain ⟨e, he, htotal⟩ := h.read rest
  rw [split, dif_neg (by simp [h.ne_nil])]
  split
  next hr => simp [he] at hr
  next y hr =>
    cases he.symm.trans hr
    rw [htotal, List.drop_left, List.take_left]
    cases split rest <;> rfl

theorem split_flatten {xs : List Bytes} (h : ∀ x ∈ xs, WellFormed x) :
    split xs.flatten = .ok xs := by
  induction xs with
  | nil => simp
  | cons x xs ih =>
    rw [List.flatten_cons, split_cons (h x (by simp)), ih fun y hy => h y (by simp [hy])]
    rfl

theorem wellFormed_of_split {b : Bytes} {xs : List Bytes} (h : split b = .ok xs) :
    ∀ x ∈ xs, WellFormed x := by
  fun_induction split b generalizing xs with
  | case1 =>
    cases h
    simp
  | case2 => simp at h
  | case3 => simp at h
  | case4 b _ e he rest hr ih =>
    cases h
    intro x hx
    rcases List.mem_cons.mp hx with rfl | hx
    · exact wellFormed_of_read he
    · exact ih hr x hx

/-- A payload is split into the well-formed items that it is made of, and into nothing else. -/
theorem split_eq_ok_iff {b : Bytes} {xs : List Bytes} :
    split b = .ok xs ↔ xs.flatten = b ∧ ∀ x ∈ xs, WellFormed x := by
  constructor
  · intro h
    exact ⟨flatten_split h, wellFormed_of_split h⟩
  · rintro ⟨rfl, h⟩
    exact split_flatten h

theorem IsList.items {b : Bytes} {xs : List Bytes} (h : IsList b xs) (rest : Bytes) :
    items (b ++ rest) = .ok xs := by
  rw [Rlp.items, h.frame.payload (.inr rfl)]
  exact split_flatten h.wellFormed

theorem IsList.isList {b : Bytes} {xs : List Bytes} (h : IsList b xs) (rest : Bytes) :
    isList (b ++ rest) = true := by
  rw [h.frame.isList (.inr rfl)]
  rfl

theorem IsList.isList_self {b : Bytes} {xs : List Bytes} (h : IsList b xs) : Rlp.isList b = true :=
  h.frame.isList_self

theorem length_le_flatten {items : List Bytes} (h : ∀ x ∈ items, WellFormed x) :
    items.length ≤ items.flatten.length := by
  induction items with
  | nil => simp
  | cons x items ih =>
    have hx := List.length_pos_iff.mpr (h x (by simp)).ne_nil
    have hitems := ih fun y hy => h y (by simp [hy])
    rw [List.flatten_cons, List.length_append, List.length_cons]
    omega

/-- Items take at least a byte each. -/
theorem IsList.length_lt {b : Bytes} {xs : List Bytes} (h : IsList b xs) : xs.length < 2 ^ 64 :=
  (length_le_flatten h.wellFormed).trans_lt h.frame.lt

/-- Equal bytes hold equal items. -/
theorem IsList.unique {b : Bytes} {xs ys : List Bytes} (hx : IsList b xs) (hy : IsList b ys) :
    xs = ys := by
  have h := (hx.items []).symm.trans (hy.items [])
  exact Except.ok.inj h

theorem IsString.unique {item x y : Bytes} (hx : IsString item x) (hy : IsString item y) :
    x = y := by
  have h := (hx.payload []).symm.trans (hy.payload [])
  exact Except.ok.inj h

/-- Nothing is a string and a list. -/
theorem IsString.not_isList {item held : Bytes} {xs : List Bytes} (hs : IsString item held) :
    ¬ IsList item xs := by
  intro hl
  have h := hs.isList_self.symm.trans hl.isList_self
  cases h

/-- On a well-formed item, being a list and splitting into items is what the grammar calls a list.
-/
theorem isList_items_iff {b : Bytes} {xs : List Bytes} (hb : WellFormed b) :
    isList b = true ∧ items b = .ok xs ↔ IsList b xs := by
  constructor
  · rintro ⟨hl, hi⟩
    cases hb with
    | string h =>
      rw [h.isList_self] at hl
      cases hl
    | @list body h =>
      have hp := h.payload (.inr rfl) []
      rw [List.append_nil] at hp
      rw [items, hp] at hi
      obtain ⟨rfl, hw⟩ := split_eq_ok_iff.mp hi
      exact ⟨h, hw⟩
  · intro h
    have hi := h.items []
    rw [List.append_nil] at hi
    exact ⟨h.isList_self, hi⟩

/-- On a well-formed item, not being a list and having a payload is what the grammar calls a string.
-/
theorem payload_iff_isString {b held : Bytes} (hb : WellFormed b) :
    isList b = false ∧ payload b = .ok held ↔ IsString b held := by
  constructor
  · rintro ⟨hl, hp⟩
    cases hb with
    | string h =>
      have hs := h.payload []
      rw [List.append_nil, hp] at hs
      cases hs
      exact h
    | list h =>
      rw [h.isList_self] at hl
      cases hl
  · intro h
    have hp := h.payload []
    rw [List.append_nil] at hp
    exact ⟨h.isList_self, hp⟩

end VectorReplay.Rlp
