import VectorReplay.Rlp.Reader
import VectorReplay.Proofs.Computation
import VectorReplay.Proofs.Rlp.Canonical

/-!
Indexed access to the items of a list. Whatever was read before, the place that a reader remembers
is one where an item of the list starts; so an index always finds the item that splitting finds.
-/
namespace VectorReplay.Rlp

variable {b list rest tail x s : Bytes} {xs : List Bytes} {i : Nat}

/-- The bytes begin with a list of these items; something may stand behind it. -/
def Begins (b : Bytes) (xs : List Bytes) : Prop :=
  ∃ list rest, b = list ++ rest ∧ IsList list xs

theorem begins_iff : Begins b xs ↔ isList b = true ∧ items b = .ok xs := by
  constructor
  · rintro ⟨list, rest, rfl, h⟩
    exact ⟨h.isList rest, h.items rest⟩
  · rintro ⟨hl, hi⟩
    obtain ⟨inner, hinner, hsplit⟩ := bind_eq_ok.mp hi
    obtain ⟨e, he, -⟩ := bind_eq_ok.mp hinner
    obtain ⟨item, held, rest, rfl, -, hs | hf⟩ := item_of_read he
    · rw [hs.isList] at hl
      cases hl
    · rw [hf.payload (.inr rfl)] at hinner
      cases hinner
      obtain ⟨rfl, hw⟩ := split_eq_ok_iff.mp hsplit
      exact ⟨item, rest, rfl, hf, hw⟩

namespace Reader

theorem skip_flatten (h : ∀ x ∈ xs, WellFormed x) (tail : Bytes) {k : Nat} (hk : k ≤ xs.length) :
    skip k (xs.flatten ++ tail) =
      .ok ((xs.drop k).flatten ++ tail, (xs.take k).flatten.length) := by
  induction k generalizing xs with
  | zero => rfl
  | succ k ih =>
    cases xs with
    | nil => simp at hk
    | cons x xs =>
      obtain ⟨e, he, htotal⟩ := (h x List.mem_cons_self).read (xs.flatten ++ tail)
      have hnext := ih (fun y hy => h y (List.mem_cons_of_mem x hy)) (Nat.le_of_succ_le_succ hk)
      rw [List.flatten_cons, List.append_assoc, skip, he]
      simp only [bind, Except.bind, htotal, List.drop_left, hnext]
      simp [pure, Except.pure]

/-- A reader of a list with something behind it, and with the place of an item in mind. A place behind
the end of the list may be anywhere. -/
structure Tracks (r : Reader) (list : Bytes) (xs : List Bytes) (rest : Bytes) : Prop where
  bytes : r.bytes = list ++ rest
  isList : IsList list xs
  mark : ∀ m ∈ r.mark, m.index ≤ xs.length →
    r.bytes.drop m.offset = (xs.drop m.index).flatten ++ rest

theorem tracks_ofBytes (h : IsList list xs) (rest : Bytes) :
    (ofBytes (list ++ rest)).Tracks list xs rest :=
  ⟨rfl, h, nofun⟩

variable {r : Reader}

theorem Tracks.isList_bytes (h : r.Tracks list xs rest) : Rlp.isList r.bytes = true := by
  rw [h.bytes]
  exact h.isList.isList rest

/-- The search starts at an item that does not stand behind the wanted one. -/
theorem Tracks.start (h : r.Tracks list xs rest) (hi : i ≤ xs.length) : ∃ j offset tail,
    j ≤ i ∧ r.start i = .ok ((xs.drop j).flatten ++ tail, i - j, offset) ∧
      r.bytes.drop offset = (xs.drop j).flatten ++ rest := by
  have hfresh : start.fresh r i =
        .ok (xs.flatten ++ [], i, list.length - xs.flatten.length) ∧
      r.bytes.drop (list.length - xs.flatten.length) = xs.flatten ++ rest := by
    have hread := h.isList.frame.read (.inr rfl) rest
    obtain ⟨header, -, hlist⟩ := h.isList.frame
    have hdrop : r.bytes.drop (list.length - xs.flatten.length) = xs.flatten ++ rest := by
      rw [h.bytes, hlist, List.length_append, Nat.add_sub_cancel, List.append_assoc, List.drop_left]
    rw [← h.bytes] at hread
    refine ⟨?_, hdrop⟩
    simp only [start.fresh, hread, bind, Except.bind, pure, Except.pure, hdrop, List.take_left,
      List.append_nil]
  unfold Reader.start
  cases hm : r.mark with
  | none => exact ⟨0, _, [], Nat.zero_le _, hfresh.1, hfresh.2⟩
  | some m =>
    dsimp only
    split
    next hle =>
      have hdrop := h.mark m hm (hle.trans hi)
      exact ⟨m.index, m.offset, rest, hle, by rw [hdrop], hdrop⟩
    next => exact ⟨0, _, [], Nat.zero_le _, hfresh.1, hfresh.2⟩

/-- Passing over items from there leads to the wanted one, or to the end of the list. -/
theorem Tracks.reach (h : r.Tracks list xs rest) (hi : i ≤ xs.length) : ∃ b k offset n tail,
    r.start i = .ok (b, k, offset) ∧ skip k b = .ok ((xs.drop i).flatten ++ tail, n) ∧
      r.bytes.drop (offset + n) = (xs.drop i).flatten ++ rest := by
  obtain ⟨j, offset, tail, hji, hstart, hdrop⟩ := h.start hi
  have hleft : ∀ y ∈ xs.drop j, WellFormed y := fun y hy =>
    h.isList.wellFormed y (List.mem_of_mem_drop hy)
  have hskip := skip_flatten hleft tail (k := i - j) (by rw [List.length_drop]; omega)
  rw [List.drop_drop, Nat.add_sub_cancel' hji] at hskip
  refine ⟨_, _, offset, _, tail, hstart, hskip, ?_⟩
  have hsplit : (xs.drop j).flatten =
      ((xs.drop j).take (i - j)).flatten ++ (xs.drop i).flatten := by
    rw [← List.flatten_append, ← Nat.add_sub_cancel' hji, ← List.drop_drop,
      Nat.add_sub_cancel_left, List.take_append_drop]
  rw [← List.drop_drop, hdrop, hsplit, List.append_assoc, List.drop_left]

/-- Every access keeps to the list, also one behind its end and one that fails. -/
theorem Tracks.next (h : r.Tracks list xs rest) (i : Nat) :
    (r.item i).2.Tracks list xs rest := by
  by_cases hi : i ≤ xs.length
  · obtain ⟨b, k, offset, n, tail, hstart, hskip, hdrop⟩ := h.reach hi
    rw [Reader.item, if_pos h.isList_bytes, hstart]
    simp only [hskip]
    refine ⟨h.bytes, h.isList, ?_⟩
    rintro m ⟨⟩ -
    exact hdrop
  · rw [Reader.item, if_pos h.isList_bytes]
    split
    next => exact h
    next b k offset _ =>
      cases skip k b with
      | error e => exact h
      | ok found =>
        refine ⟨h.bytes, h.isList, ?_⟩
        rintro m ⟨⟩ hle
        exact absurd hle hi

/-- After any reads, an index finds the item that stands there in the list. -/
theorem Tracks.item (h : r.Tracks list xs rest) (hx : xs[i]? = some x) :
    ∃ r', r.item i = (.ok x, r') ∧ r'.Tracks list xs rest := by
  obtain ⟨hi, rfl⟩ := List.getElem?_eq_some_iff.mp hx
  obtain ⟨b, k, offset, n, tail, hstart, hskip, -⟩ := h.reach hi.le
  have hitem : (xs.drop i).flatten = xs[i] ++ (xs.drop (i + 1)).flatten := by
    rw [List.drop_eq_getElem_cons hi, List.flatten_cons]
  obtain ⟨e, he, htotal⟩ := (h.isList.wellFormed xs[i] (List.getElem_mem hi)).read
    ((xs.drop (i + 1)).flatten ++ tail)
  rw [← List.append_assoc, ← hitem] at he
  have hfound : (r.item i).1 = .ok xs[i] := by
    rw [Reader.item, if_pos h.isList_bytes, hstart]
    simp only [hskip, he, Except.map, htotal]
    rw [hitem, List.append_assoc, List.take_left]
  exact ⟨_, Prod.ext hfound rfl, h.next i⟩

/-! ### Strings of items -/

theorem stringOf_of_isList (h : Rlp.isList x = true) : stringOf x = .error .expectedString := by
  cases x with
  | nil => cases h
  | cons y ys =>
    have hy : (0xC0 : UInt8) ≤ y := of_decide_eq_true h
    have hlow : ¬ y < 0x80 := by
      rw [UInt8.lt_iff_toNat_lt]
      rw [UInt8.le_iff_toNat_le] at hy
      exact not_lt.mpr (le_trans (by decide) hy)
    rw [stringOf, if_neg hlow, if_pos hy]

/-- Behind a header, a byte that could stand for itself is not read. -/
theorem stringOf_of_framed (h : Framed 0x80 x s) : stringOf x =
    if s.length = 1 ∧ s.headD 0x80 < 0x80 then .error .invalidIndirection else .ok s := by
  have hb : IsBase 0x80 := .inl rfl
  have hpayload : payload x = .ok s := by simpa using h.payload hb []
  have hbase : (0x80 : UInt8).toNat = 128 := rfl
  have hnext : (0x81 : UInt8).toNat = 129 := rfl
  have hlist : (0xC0 : UInt8).toNat = 192 := rfl
  obtain ⟨header, hh, rfl⟩ := h
  generalize hn : s.length = n at hh
  cases hh with
  | short small =>
    have hfirst := hb.toNat_short small
    rw [hbase] at hfirst
    have hone : 0x80 + UInt8.ofNat n = 0x81 ↔ n = 1 := by
      rw [← UInt8.toNat_inj, hfirst, hnext]
      omega
    rw [List.singleton_append, stringOf, if_neg (by rw [UInt8.lt_iff_toNat_lt]; omega),
      if_neg (by rw [UInt8.le_iff_toNat_le]; omega), ← List.singleton_append, hpayload]
    simp only [hone]
  | @long digits count lead large =>
    have hfirst := hb.toNat_long count
    rw [hbase] at hfirst
    have hone : ¬ 0x80 + 55 + UInt8.ofNat digits.length = 0x81 := by
      rw [← UInt8.toNat_inj, hfirst, hnext]
      omega
    rw [List.cons_append] at hpayload ⊢
    rw [stringOf, if_neg (by rw [UInt8.lt_iff_toNat_lt]; omega),
      if_neg (by rw [UInt8.le_iff_toNat_le]; omega), if_neg fun h => hone h.1, if_neg (by omega),
      hpayload]

theorem encodeString_of_lt {y : UInt8} (h : y < 0x80) : encodeString [y] = [y] :=
  if_pos h

theorem encodeString_of_not (h : ¬ (s.length = 1 ∧ s.headD 0x80 < 0x80)) :
    encodeString s = frame 0x80 s := by
  unfold encodeString
  split
  next y => exact if_neg fun hy => h ⟨rfl, hy⟩
  next => rfl

/-- A string is read where it stands in the form that is written, and nowhere else. -/
theorem stringOf_eq_ok_iff (hx : WellFormed x) :
    stringOf x = .ok s ↔ x = encodeString s ∧ s.length < 2 ^ 64 := by
  cases hx with
  | @list body h =>
    have hl := h.isList_self
    rw [stringOf_of_isList hl]
    constructor
    · nofun
    · rintro ⟨rfl, hlt⟩
      rw [(isString_encodeString hlt).isList_self] at hl
      cases hl
  | @string held h =>
    have heq (hs : x = encodeString s ∧ s.length < 2 ^ 64) : held = s := by
      have hstring := isString_encodeString hs.2
      rw [← hs.1] at hstring
      exact h.unique hstring
    cases h with
    | @byte y small =>
      have hread : stringOf [y] = .ok [y] := if_pos small
      rw [hread]
      constructor
      · rintro ⟨⟩
        exact ⟨(encodeString_of_lt small).symm, by simp⟩
      · intro hs
        rw [heq hs]
    | framed frame =>
      rw [stringOf_of_framed frame]
      split
      next hbyte =>
        constructor
        · nofun
        · rintro hs
          obtain ⟨y, rfl⟩ := List.length_eq_one_iff.mp hbyte.1
          have hlt := frame.length_lt
          have hy : y < 0x80 := hbyte.2
          rw [hs.1, ← heq hs, encodeString_of_lt hy] at hlt
          exact absurd hlt (lt_irrefl _)
      next hbyte =>
        constructor
        · rintro ⟨⟩
          obtain ⟨hx, hlt⟩ := framed_iff.mp frame
          exact ⟨hx.trans (encodeString_of_not hbyte).symm, hlt⟩
        · intro hs
          rw [heq hs]

end Reader

/-- The items of a list are short enough for the length of what they hold to be written. -/
theorem IsList.held_lt (h : IsList list xs) (hx : encodeString s ∈ xs) : s.length < 2 ^ 64 :=
  calc s.length ≤ (encodeString s).length := length_le_encodeString s
    _ ≤ xs.flatten.length := (List.sublist_flatten_of_mem hx).length_le
    _ < 2 ^ 64 := h.frame.lt

theorem IsList.stringOf_eq_ok_iff (h : IsList list xs) (hx : x ∈ xs) :
    Reader.stringOf x = .ok s ↔ x = encodeString s := by
  rw [Reader.stringOf_eq_ok_iff (h.wellFormed x hx), and_iff_left_iff_imp]
  rintro rfl
  exact h.held_lt hx

end VectorReplay.Rlp
