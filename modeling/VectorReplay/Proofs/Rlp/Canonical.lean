import VectorReplay.Rlp.Encode
import VectorReplay.Proofs.Rlp.Item

/-!
The encoder writes the only form that the grammar admits, one exception apart: a byte that could
stand for itself may also stand behind a header.
-/
namespace VectorReplay.Rlp

theorem Header.eq_frame {base : UInt8} {header : Bytes} {n : Nat} (h : Header base header n)
    {body : Bytes} (hlen : body.length = n) : header ++ body = frame base body := by
  cases h with
  | short small => rw [frame, if_pos (by omega), hlen, List.singleton_append]
  | @long digits count lead large =>
    rw [frame, if_neg (by omega), hlen]
    simp only [Bytes.ofNat_toNat lead, List.cons_append]

theorem header_of_length (base : UInt8) {n : Nat} (hn : n < 2 ^ 64) :
    ∃ header, Header base header n := by
  by_cases hsmall : n ≤ 55
  · exact ⟨_, .short hsmall⟩
  · have hcount : (Bytes.ofNat n).length ≤ 8 := Bytes.length_ofNat_le (by omega)
    have hlarge : 55 < Bytes.toNat (Bytes.ofNat n) := by
      rw [Bytes.toNat_ofNat]
      omega
    have h : Header base _ (Bytes.toNat (Bytes.ofNat n)) :=
      .long hcount (Bytes.head?_ofNat n) hlarge
    rw [Bytes.toNat_ofNat] at h
    exact ⟨_, h⟩

/-- There is one frame for a payload, the one that is written. -/
theorem framed_iff {base : UInt8} {item body : Bytes} :
    Framed base item body ↔ item = frame base body ∧ body.length < 2 ^ 64 := by
  constructor
  · intro h
    have hlt := h.lt
    obtain ⟨header, hh, rfl⟩ := h
    exact ⟨hh.eq_frame rfl, hlt⟩
  · rintro ⟨rfl, hlt⟩
    obtain ⟨header, hh⟩ := header_of_length base hlt
    exact ⟨header, hh, (hh.eq_frame rfl).symm⟩

theorem isString_encodeString {held : Bytes} (hlt : held.length < 2 ^ 64) :
    IsString (encodeString held) held := by
  unfold encodeString
  split
  next x =>
    split
    next hx => exact .byte hx
    next => exact .framed (framed_iff.mpr ⟨rfl, hlt⟩)
  next => exact .framed (framed_iff.mpr ⟨rfl, hlt⟩)

theorem IsString.eq_encodeString {item held : Bytes} (h : IsString item held)
    (hlen : held.length ≠ 1) : item = encodeString held := by
  cases h with
  | byte => simp at hlen
  | framed frame =>
    unfold encodeString
    split
    next x => simp at hlen
    next => exact (framed_iff.mp frame).1

/-- A list is the encoding of its items. -/
theorem isList_iff {b : Bytes} {items : List Bytes} : IsList b items ↔
    b = encodeList items ∧ items.flatten.length < 2 ^ 64 ∧ ∀ x ∈ items, WellFormed x := by
  constructor
  · intro h
    obtain ⟨heq, hlt⟩ := framed_iff.mp h.frame
    exact ⟨heq, hlt, h.wellFormed⟩
  · rintro ⟨rfl, hlt, hw⟩
    exact ⟨framed_iff.mpr ⟨rfl, hlt⟩, hw⟩

theorem length_le_frame (base : UInt8) (body : Bytes) : body.length ≤ (frame base body).length := by
  rw [frame]
  split
  · simp
  · simp only [List.length_cons, List.length_append]
    omega

theorem length_le_encodeString (held : Bytes) : held.length ≤ (encodeString held).length := by
  unfold encodeString
  split
  next x =>
    split
    next => exact le_rfl
    next => exact length_le_frame _ _
  next => exact length_le_frame _ _

theorem length_le_encodeList (items : List Bytes) :
    items.flatten.length ≤ (encodeList items).length :=
  length_le_frame _ _

end VectorReplay.Rlp
