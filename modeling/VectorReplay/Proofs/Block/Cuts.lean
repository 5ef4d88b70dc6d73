import VectorReplay.Proofs.Block.Encoding

/-!
Blocks that are cut off and blocks that something follows. Wherever a cut falls, in the length bytes of
the outer list, in its header or in what it holds, the list runs past the end; and what follows a block
does not change where the list ends.
-/
namespace VectorReplay

namespace Rlp

/-! ### Cut items -/

variable {base : UInt8} {cut body : Bytes}

theorem Extent.long_cut {digits rest : Bytes} (lead : (digits ++ rest).head? ≠ some 0)
    (hrest : rest ≠ []) : long (digits ++ rest).length digits = .error .tooShort := by
  cases digits with
  | nil => rfl
  | cons x digits =>
    have hx : x ≠ 0 := by simpa using lead
    have hpos := List.length_pos_iff.mpr hrest
    have hshort : (x :: digits).length < (x :: digits ++ rest).length := by
      rw [List.length_append]
      omega
    rw [long, if_neg hx, if_pos hshort]

/-- Only a header with length bytes can be cut, and the cut falls among these. -/
theorem Header.declared_cut {header : Bytes} {n : Nat} (hb : IsBase base)
    (h : Header base header n) (hbegins : cut <+: header) (hcut : cut ≠ []) (hne : cut ≠ header) :
    Extent.declared cut = .error .tooShort := by
  obtain ⟨x, first, rfl⟩ := List.exists_cons_of_ne_nil hcut
  cases h with
  | short =>
    obtain ⟨rfl, hfirst⟩ := List.cons_prefix_cons.mp hbegins
    exact absurd (by rw [List.prefix_nil.mp hfirst]) hne
  | @long digits count lead large =>
    obtain ⟨rfl, rest, rfl⟩ := List.cons_prefix_cons.mp hbegins
    have hrest : rest ≠ [] := by
      rintro rfl
      rw [List.append_nil] at hne
      exact hne rfl
    rw [declared_long hb (by simp [hrest]) count, Extent.long_cut lead hrest]

/-- A framed item that is cut off runs past the end. -/
theorem Framed.read_cut {item : Bytes} (hb : IsBase base) (h : Framed base item body)
    (hbegins : cut <+: item) (hcut : cut ≠ []) (hne : cut ≠ item) :
    Extent.read cut = .error .tooShort := by
  obtain ⟨header, hh, rfl⟩ := h
  by_cases hwhole : header <+: cut
  · obtain ⟨front, rfl⟩ := hwhole
    have hlong : front.length < body.length := by
      have hfront := (List.prefix_append_right_inj header).mp hbegins
      refine lt_of_le_of_ne hfront.length_le fun hlength => hne ?_
      rw [hfront.eq_of_length hlength]
    rw [Extent.read, hh.declared hb front]
    refine if_neg ?_
    simp only [Extent.total, List.length_append]
    omega
  · have hheader : cut <+: header :=
      (List.prefix_or_prefix_of_prefix hbegins (List.prefix_append header body)).resolve_right hwhole
    have hproper : cut ≠ header := by
      rintro rfl
      exact hwhole List.prefix_rfl
    rw [Extent.read, hh.declared_cut hb hheader hcut hproper]

end Rlp

namespace Block

/-! ### Cut blocks -/

theorem decode_of_cut {b cut : Bytes} {items : List Bytes} (h : Rlp.IsList b items)
    (hbegins : cut <+: b) (hcut : cut ≠ []) (hne : cut ≠ b) :
    decode cut = .error (.rlp .tooShort) := by
  have hread := h.frame.read_cut (.inr rfl) hbegins hcut hne
  have hlist : Rlp.isList cut = true := by
    obtain ⟨x, first, rfl⟩ := List.exists_cons_of_ne_nil hcut
    obtain ⟨rest, rfl⟩ := hbegins
    exact h.isList_self
  rw [decode, if_pos hlist, hread]
  rfl

/-- What follows a list is counted before its items are looked at. -/
theorem decode_of_followed {b rest : Bytes} {items : List Bytes} (h : Rlp.IsList b items)
    (hrest : rest ≠ []) : decode (b ++ rest) = .error (.schema (.trailingBytes rest.length)) := by
  have htotal := Nat.sub_add_cancel h.frame.length_lt.le
  have hpos := List.length_pos_iff.mpr hrest
  rw [decode, if_pos (h.isList rest), h.frame.read (.inr rfl) rest]
  refine (if_pos ?_).trans ?_
  · rw [Rlp.Extent.total, htotal, List.length_append]
    omega
  · rw [Rlp.Extent.total, htotal, List.length_append, Nat.add_sub_cancel_left]

theorem exists_isList_of_decode {b : Bytes} {block : Block} (h : decode b = .ok block) :
    ∃ items, Rlp.IsList b items := by
  cases decode_eq_ok.mp h with
  | intro parts => exact ⟨_, parts⟩

/-- A block that is cut off anywhere is too short, no bytes are no list, and bytes behind a block are
counted: no block begins with another. -/
theorem decode_prefix_free {b : Bytes} {block : Block} (decoded : decode b = .ok block) :
    (∀ cut, cut <+: b → cut ≠ [] → cut ≠ b → decode cut = .error (.rlp .tooShort)) ∧
    decode [] = .error (.schema (.notList "block")) ∧
    (∀ rest, rest ≠ [] → decode (b ++ rest) = .error (.schema (.trailingBytes rest.length))) ∧
    ∀ c block', decode c = .ok block' → b <+: c ∨ c <+: b → c = b := by
  obtain ⟨items, hlist⟩ := exists_isList_of_decode decoded
  refine ⟨fun cut => decode_of_cut hlist, rfl, fun rest => decode_of_followed hlist, ?_⟩
  rintro c block' hc (⟨rest, rfl⟩ | hbegins)
  · by_contra hne
    have hrest : rest ≠ [] := by
      rintro rfl
      exact hne (List.append_nil b)
    rw [decode_of_followed hlist hrest] at hc
    cases hc
  · by_contra hne
    have hnil : c ≠ [] := by
      rintro rfl
      cases hc
    rw [decode_of_cut hlist hbegins hnil hne] at hc
    cases hc

/-- A block with both kinds of transactions, cut among them and followed by one byte. -/
theorem decode_mixed_cut : (∃ block, decode Form.mixed.encode = .ok block) ∧
    decode (Form.mixed.encode.take 50) = .error (.rlp .tooShort) ∧
    decode (Form.mixed.encode ++ [0x80]) = .error (.schema (.trailingBytes 1)) := by
  obtain ⟨header, -, hdecode⟩ := Form.mixed_fits.exists_decode Form.mixed_narrow
  obtain ⟨cut, -, followed, -⟩ := decode_prefix_free hdecode
  exact ⟨⟨_, hdecode⟩, cut _ (List.take_prefix _ _) (by decide_cbv) (by decide_cbv),
    followed [0x80] (by decide)⟩

end Block

end VectorReplay
