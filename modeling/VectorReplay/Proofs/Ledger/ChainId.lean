import VectorReplay.Proofs.Execution
import VectorReplay.Proofs.Ledger.Reading

/-!
The two chain ids of a legacy transaction: the one that a block declares, from all bits of `v`, and
the one that a transfer is signed for, from the low 64. They are the same exactly below `2 ^ 64`.
-/
namespace VectorReplay

namespace Transaction

theorem legacy_ne_ofByte? {byte : UInt8} {kind : Kind} (h : Kind.ofByte? byte = some kind) :
    kind ≠ .legacy := by
  rintro rfl
  have hmem := Kind.mem_envelopes_iff.mpr ⟨h, rfl⟩
  simp [Kind.envelopes] at hmem

/-- A legacy transaction is a list of nine fields; something may stand behind the list. -/
theorem legacy_of_decode {item : Bytes} {t : Transaction} (h : decode item = .ok t)
    (legacy : t.kind = .legacy) : t.encoded = item ∧ ∃ fields v, Rlp.Begins item fields ∧
      fields.length = 9 ∧ Block.WordAt fields 6 v ∧ DeclaredBy v.toNat t.chainId := by
  unfold decode at h
  split at h
  next hlist =>
    simp only [decodeLegacy, fields, Block.listItems, if_pos hlist, bind_eq_ok,
      Block.liftRlp_eq_ok, chainIdOfV_eq_ok, pure, Except.pure, Except.ok.injEq] at h
    obtain ⟨xs, ⟨ys, hitems, hcount⟩, v, hv, c, hc, nonce, -, rfl⟩ := h
    split at hcount
    next hlength =>
      cases hcount
      have hbegins : Rlp.Begins item xs := Rlp.begins_iff.mpr ⟨hlist, hitems⟩
      obtain ⟨list, -, -, hxs⟩ := hbegins
      exact ⟨rfl, xs, v, Rlp.begins_iff.mpr ⟨hlist, hitems⟩, hlength,
        (Block.wordAt_eq_ok hxs.wellFormed).mp hv, hc⟩
    next => cases hcount
  next hlist =>
    simp only [bind_eq_ok, Block.liftRlp_eq_ok] at h
    obtain ⟨envelope, -, h⟩ := h
    cases envelope with
    | nil => simp [decodeTyped] at h
    | cons byte body =>
      simp only [decodeTyped] at h
      split at h
      next => cases h
      next kind hkind =>
        split at h
        next =>
          simp only [bind_eq_ok, Block.liftRlp_eq_ok] at h
          obtain ⟨e, -, h⟩ := h
          split at h
          next => cases h
          next =>
            simp only [bind_eq_ok, pure, Except.pure, Except.ok.injEq] at h
            obtain ⟨_, -, _, -, _, -, rfl⟩ := h
            exact absurd legacy (legacy_ne_ofByte? hkind)
        next => cases h

end Transaction

namespace Transaction.Form

/-- Strings that are not too long fit, whatever they say. -/
theorem Fits.ofStrings {nonce v : Bytes} {call signature : List Bytes} (count : call.length = 5)
    (signatureCount : signature.length = 2) (number : nonce.length ≤ 32)
    (chain : Bytes.toNat v = 27 ∨ Bytes.toNat v = 28 ∨
      35 ≤ Bytes.toNat v ∧ (Bytes.toNat v - 35) / 2 < 2 ^ 64)
    (short : ∀ s ∈ call ++ signature, s.length < 2 ^ 64) :
    Fits (.legacy nonce (call.map Rlp.encodeString) v (signature.map Rlp.encodeString)) := by
  refine .legacy ((List.length_map _).trans count) ((List.length_map _).trans signatureCount) number
    chain fun x hx => ?_
  rw [← List.map_append] at hx
  obtain ⟨s, hs, rfl⟩ := List.mem_map.mp hx
  exact .string (Rlp.isString_encodeString (short s hs))

theorem Fits.decode_item {f : Form} (fits : f.Fits) (narrow : f.Narrow)
    (size : f.item.length < 2 ^ 64) : decode f.item = .ok f.transaction :=
  (decode_eq_ok (fits.wellFormed_item size)).mpr (fits.reads narrow size)

end Transaction.Form

namespace Transfer

open Block (WordAt)
open Rlp (encodeString)

/-- The declared chain id and the parity that goes with it are those of a transfer exactly where `v`
has no bits beyond the low 64. -/
theorem derives_declared_iff {item : Bytes} {t : Transaction} {c : UInt64}
    (decoded : Transaction.decode item = .ok t) (legacy : t.kind = .legacy)
    (declared : t.chainId = some c) :
    ∃ fields v, ∃ odd : Bool, Rlp.Begins t.encoded fields ∧ WordAt fields 6 v ∧
      v.toNat = 35 + 2 * c.toNat + odd.toNat ∧
      (splitV v.low64 = some (c, odd) ↔ v.toNat < 2 ^ 64) ∧
      ∀ crypto x, decode crypto t.encoded = .ok x →
        (x.chainId = c ↔ v.toNat < 2 ^ 64) ∧
        (v.toNat < 2 ^ 64 → SignedBy crypto fields c odd x.sender) := by
  obtain ⟨rfl, fields, v, begins, count, last, hdeclared⟩ :=
    Transaction.legacy_of_decode decoded legacy
  rw [declared] at hdeclared
  obtain ⟨-, hnone⟩ | ⟨hlow, c', hc', hhalf⟩ := hdeclared
  · cases hnone
  cases hc'
  obtain ⟨odd, hodd⟩ : ∃ odd : Bool, v.toNat = 35 + 2 * c.toNat + odd.toNat := by
    rcases Nat.mod_two_eq_zero_or_one (v.toNat - 35) with heven | hone
    · exact ⟨false, by rw [Bool.toNat_false]; omega⟩
    · exact ⟨true, by rw [Bool.toNat_true]; omega⟩
  have hsplit : splitV v.low64 = some (c, odd) ↔ v.toNat < 2 ^ 64 := by
    rw [splitV_eq_some_iff]
    omega
  refine ⟨fields, v, odd, begins, last, hodd, hsplit, fun crypto x hx => ?_⟩
  obtain ⟨odd', hlow, hsigned⟩ := signedBy_of_decode begins count last hx
  refine ⟨?_, fun hlt => ?_⟩
  · have hbit := odd.toNat_le
    have hbit' := odd'.toNat_le
    rw [← UInt64.toNat_inj]
    omega
  · have hsome := hsplit.mpr hlt
    rw [splitV_eq_some_iff.mpr hlow] at hsome
    cases hsome
    exact hsigned

open Payment in
/-- The `v` of the payment is small. -/
theorem derives_declared_payment : ∃ t ∈ block.transactions, ∃ fields v, ∃ odd : Bool,
    t.kind = .legacy ∧ t.chainId = some 1 ∧ Rlp.Begins t.encoded fields ∧ WordAt fields 6 v ∧
    splitV v.low64 = some (1, odd) := by
  have hf : form.transactions.head nofun ∈ form.transactions := List.head_mem _
  have decoded := (form_fits.transactions _ hf).decode_item (form_narrow.transactions _ hf)
    (by decide +kernel)
  have declared : (form.transactions.head nofun).transaction.chainId = some 1 := by decide +kernel
  obtain ⟨fields, v, odd, begins, last, hv, hsplit, -⟩ := derives_declared_iff decoded rfl declared
  have hone : (1 : UInt64).toNat = 1 := rfl
  have hbit := odd.toNat_le
  exact ⟨_, List.mem_map_of_mem hf, fields, v, odd, rfl, declared, begins, last,
    hsplit.mpr (by omega)⟩

/-- A transaction without a value, signed for the chain `2 ^ 63 + 2`. -/
def wide : Transaction.Form :=
  .legacy [] ([[], [0x52, 0x08], List.replicate 20 0x22, [], []].map encodeString)
    (Bytes.ofNat (2 ^ 64 + 39)) ([
      Bytes.ofNat 0x5cbdf0646e5db4eaa398f365f2ea7a0e3d419b7e0330e39ce92bddedcac4f9bc,
      Bytes.ofNat 0x23899100c2ef690112055648bb2fd0ba2594422897d8de2a37b4303b5547445b].map
    encodeString)

theorem wide_fits : wide.Fits :=
  .ofStrings rfl rfl (by decide) (by decide +kernel) (by decide +kernel)

theorem wide_decoded : Transaction.decode wide.item = .ok wide.transaction :=
  wide_fits.decode_item (by decide +kernel) (by decide +kernel)

/-- To the node it is signed for chain 2, by somebody else. -/
theorem not_derives_declared : ∃ item t c x, Transaction.decode item = .ok t ∧ t.kind = .legacy ∧
    t.chainId = some c ∧ decode .ethereum t.encoded = .ok x ∧ x.chainId ≠ c := by
  have h : (decode .ethereum wide.transaction.encoded).toOption.map Transfer.chainId = some 2 := by
    decide +kernel
  obtain ⟨x, hx, hid⟩ := Option.map_eq_some_iff.mp h
  refine ⟨_, _, UInt64.ofNat (2 ^ 63 + 2), x, wide_decoded, rfl, ?_, eq_ok_of_toOption hx, ?_⟩
  · decide +kernel
  · rw [hid]
    decide

end Transfer

end VectorReplay
