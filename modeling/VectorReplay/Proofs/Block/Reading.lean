import VectorReplay.Block.Basic
import VectorReplay.Proofs.Block.Fields
import Mathlib.Data.List.Forall2

/-!
What a decoded block says of its bytes. Each decoder answers a value exactly when the grammar of
items relates the bytes to that value.
-/
namespace VectorReplay

open Block (StringAt WordAt UInt64At)

/-! ### Headers -/

namespace Header

/-- The base fee is read exactly where there is a sixteenth field. -/
def BaseFeeAt (fields : List Bytes) (fee : Option Word) : Prop :=
  if 15 < fields.length then ∃ w, WordAt fields 15 w ∧ fee = some w else fee = none

structure Reads (fields : List Bytes) (h : Header) : Prop where
  count : minFields ≤ fields.length
  coinbase : StringAt fields 2 h.coinbase.bytes
  number : WordAt fields 8 h.number
  gasLimit : WordAt fields 9 h.gasLimit
  gasUsed : WordAt fields 10 h.gasUsed
  timestamp : UInt64At fields 11 h.timestamp
  baseFee : BaseFeeAt fields h.baseFee
  hardfork : h.hardfork = Hardfork.ofFieldCount fields.length

theorem ofFields_eq_ok {fields : List Bytes} {h : Header}
    (wellFormed : ∀ x ∈ fields, Rlp.WellFormed x) : ofFields fields = .ok h ↔ Reads fields h := by
  rw [ofFields]
  split_ifs with hcount hfee
  · simp only [false_iff]
    intro hr
    have := hr.count
    omega
  · simp only [bind_eq_ok, map_eq_ok, Block.addressAt_eq_ok wellFormed,
      Block.wordAt_eq_ok wellFormed, Block.uint64At_eq_ok wellFormed, pure, Except.pure,
      Except.ok.injEq]
    constructor
    · rintro ⟨_, ⟨w, hw, rfl⟩, coinbase, hc, number, hn, limit, hl, used, hu, timestamp, ht, rfl⟩
      exact ⟨by omega, hc, hn, hl, hu, ht, (if_pos hfee).mpr ⟨w, hw, rfl⟩, rfl⟩
    · intro hr
      obtain ⟨w, hw, hf⟩ := (if_pos hfee).mp hr.baseFee
      refine ⟨_, ⟨w, hw, hf.symm⟩, _, hr.coinbase, _, hr.number, _, hr.gasLimit, _, hr.gasUsed, _,
        hr.timestamp, ?_⟩
      rw [← hr.hardfork]
  · simp only [bind_eq_ok, Block.addressAt_eq_ok wellFormed, Block.wordAt_eq_ok wellFormed,
      Block.uint64At_eq_ok wellFormed, pure, Except.pure, Except.ok.injEq]
    constructor
    · rintro ⟨_, rfl, coinbase, hc, number, hn, limit, hl, used, hu, timestamp, ht, rfl⟩
      exact ⟨by omega, hc, hn, hl, hu, ht, (if_neg hfee).mpr rfl, rfl⟩
    · intro hr
      have hf := (if_neg hfee).mp hr.baseFee
      refine ⟨_, hf.symm, _, hr.coinbase, _, hr.number, _, hr.gasLimit, _, hr.gasUsed, _,
        hr.timestamp, ?_⟩
      rw [← hr.hardfork]

theorem decode_eq_ok {b : Bytes} {h : Header} (hb : Rlp.WellFormed b) :
    decode b = .ok h ↔ ∃ fields, Rlp.IsList b fields ∧ Reads fields h := by
  simp only [decode, bind_eq_ok, Block.listItems_eq_ok hb]
  constructor
  · rintro ⟨fields, hl, ho⟩
    exact ⟨fields, hl, (ofFields_eq_ok hl.wellFormed).mp ho⟩
  · rintro ⟨fields, hl, hr⟩
    exact ⟨fields, hl, (ofFields_eq_ok hl.wellFormed).mpr hr⟩

end Header

/-! ### Transactions -/

namespace Transaction

/-- The chain id behind the `v` of a legacy signature. -/
def DeclaredBy (v : Nat) (chainId : Option UInt64) : Prop :=
  (v = 27 ∨ v = 28) ∧ chainId = none ∨
    35 ≤ v ∧ ∃ c : UInt64, chainId = some c ∧ c.toNat = (v - 35) / 2

theorem chainIdOfV_eq_ok {v : Word} {c : Option UInt64} :
    chainIdOfV v = .ok c ↔ DeclaredBy v.toNat c := by
  rw [chainIdOfV, DeclaredBy]
  split
  next hold =>
    have hlow : ¬ 35 ≤ v.toNat := by omega
    simp only [Except.ok.injEq, hold, hlow, true_and, false_and, or_false]
    exact eq_comm
  next hold =>
    split
    next hnew =>
      dsimp only
      split
      next hwide =>
        simp only [reduceCtorEq, hold, hnew, true_and, false_and, false_or, false_iff, not_exists,
          not_and]
        intro c _ hc
        have hlt : c.toNat < UInt64.size := c.toNat_lt
        omega
      next hwide =>
        simp only [Except.ok.injEq, hold, hnew, true_and, false_and, false_or]
        constructor
        · rintro rfl
          exact ⟨_, rfl, UInt64.toNat_ofNat_of_lt' (by omega)⟩
        · rintro ⟨c, rfl, hc⟩
          rw [← hc, UInt64.ofNat_toNat]
    next hnew => simp [hold, hnew]

/-- What an item of a transaction list is read as. -/
inductive Reads (item : Bytes) : Transaction → Prop
  | legacy {fields : List Bytes} {v nonce : Word} {chainId : Option UInt64}
      (list : Rlp.IsList item fields) (count : fields.length = Kind.legacy.fieldCount)
      (signature : WordAt fields 6 v) (chain : DeclaredBy v.toNat chainId)
      (number : WordAt fields 0 nonce) :
      Reads item { kind := .legacy, chainId, nonce, encoded := item }
  | typed {byte : UInt8} {body : Bytes} {kind : Kind} {fields : List Bytes} {chainId : UInt64}
      {nonce : Word} (string : Rlp.IsString item (byte :: body))
      (envelope : Kind.ofByte? byte = some kind) (list : Rlp.IsList body fields)
      (count : fields.length = kind.fieldCount) (chain : UInt64At fields 0 chainId)
      (number : WordAt fields 1 nonce) :
      Reads item { kind, chainId := some chainId, nonce, encoded := byte :: body }

theorem fields_eq_ok {kind : Kind} {b : Bytes} {xs : List Bytes} (hb : Rlp.WellFormed b) :
    fields kind b = .ok xs ↔ Rlp.IsList b xs ∧ xs.length = kind.fieldCount := by
  simp only [fields, bind_eq_ok, Block.listItems_eq_ok hb]
  constructor
  · rintro ⟨ys, hl, h⟩
    split at h
    next hcount =>
      cases h
      exact ⟨hl, hcount⟩
    next => simp at h
  · rintro ⟨hl, hcount⟩
    exact ⟨xs, hl, if_pos hcount⟩

theorem decodeLegacy_eq_ok {b : Bytes} {t : Transaction} (hb : Rlp.WellFormed b)
    (hl : Rlp.isList b = true) : decodeLegacy b = .ok t ↔ Reads b t := by
  simp only [decodeLegacy, bind_eq_ok, fields_eq_ok hb, chainIdOfV_eq_ok, pure, Except.pure,
    Except.ok.injEq]
  constructor
  · rintro ⟨xs, ⟨hlist, hcount⟩, v, hv, c, hc, nonce, hn, rfl⟩
    rw [Block.wordAt_eq_ok hlist.wellFormed] at hv hn
    exact .legacy hlist hcount hv hc hn
  · intro h
    cases h with
    | legacy hlist hcount hv hc hn =>
      exact ⟨_, ⟨hlist, hcount⟩, _, (Block.wordAt_eq_ok hlist.wellFormed).mpr hv, _, hc, _,
        (Block.wordAt_eq_ok hlist.wellFormed).mpr hn, rfl⟩
    | typed string =>
      rw [string.isList_self] at hl
      cases hl

theorem decodeTyped_eq_ok {item envelope : Bytes} {t : Transaction}
    (hs : Rlp.IsString item envelope) : decodeTyped envelope = .ok t ↔ Reads item t := by
  constructor
  · intro h
    cases envelope with
    | nil => simp [decodeTyped] at h
    | cons byte body =>
      simp only [decodeTyped] at h
      split at h
      next => simp at h
      next kind hkind =>
        split at h
        next hlist =>
          simp only [bind_eq_ok, Block.liftRlp_eq_ok] at h
          obtain ⟨e, he, h⟩ := h
          split at h
          next => simp at h
          next htotal =>
            have hbody := Rlp.wellFormed_of_read_all he (not_not.mp htotal).ge
            simp only [bind_eq_ok, fields_eq_ok hbody, pure, Except.pure, Except.ok.injEq] at h
            obtain ⟨xs, ⟨hl, hcount⟩, c, hc, nonce, hn, rfl⟩ := h
            rw [Block.uint64At_eq_ok hl.wellFormed] at hc
            rw [Block.wordAt_eq_ok hl.wellFormed] at hn
            exact .typed hs hkind hl hcount hc hn
        next => simp at h
  · intro h
    cases h with
    | legacy hlist => exact absurd hlist hs.not_isList
    | @typed byte body kind xs c nonce string hkind hl hcount hc hn =>
      have heq : envelope = byte :: body := hs.unique string
      have hwf : Rlp.WellFormed body := .list hl.frame
      obtain ⟨extent, hread, htotal⟩ := hwf.read_self
      have hxs : fields kind body = .ok xs := (fields_eq_ok hwf).mpr ⟨hl, hcount⟩
      have hc' : Block.uint64At xs 0 "chainId" = .ok c :=
        (Block.uint64At_eq_ok hl.wellFormed).mpr hc
      have hn' : Block.wordAt xs 1 "nonce" = .ok nonce :=
        (Block.wordAt_eq_ok hl.wellFormed).mpr hn
      simp only [heq, decodeTyped, hkind, if_pos hl.isList_self, hread, Block.liftRlp, htotal, hxs,
        hc', hn', bind, Except.bind, pure, Except.pure]
      simp

/-- Decoding an item answers what the grammar reads from it. -/
theorem decode_eq_ok {item : Bytes} {t : Transaction} (hb : Rlp.WellFormed item) :
    decode item = .ok t ↔ Reads item t := by
  rw [decode]
  split
  next hl => exact decodeLegacy_eq_ok hb hl
  next hl =>
    simp only [bind_eq_ok, Block.liftRlp_eq_ok]
    cases hb with
    | string hs =>
      have hp := hs.payload []
      rw [List.append_nil] at hp
      simp only [hp, Except.ok.injEq, exists_eq_left']
      exact decodeTyped_eq_ok hs
    | list hf =>
      exact absurd hf.isList_self hl

end Transaction

/-! ### Blocks -/

namespace Block

theorem exists_forall₂_iff {α β : Type} {R : α → β → Prop} {xs : List α} :
    (∃ ys, List.Forall₂ R xs ys) ↔ ∀ x ∈ xs, ∃ y, R x y := by
  induction xs with
  | nil => simp
  | cons x xs ih =>
    simp only [List.forall₂_cons_left_iff, List.forall_mem_cons, ← ih]
    constructor
    · rintro ⟨_, y, ys, hy, hys, rfl⟩
      exact ⟨⟨y, hy⟩, ys, hys⟩
    · rintro ⟨⟨y, hy⟩, ys, hys⟩
      exact ⟨_, y, ys, hy, hys, rfl⟩

theorem decodeTransactions_eq_ok {i : Nat} {items : List Bytes} {ts : List Transaction}
    (wellFormed : ∀ x ∈ items, Rlp.WellFormed x) :
    decodeTransactions i items = .ok ts ↔ List.Forall₂ Transaction.Reads items ts := by
  induction items generalizing i ts with
  | nil =>
    simp only [decodeTransactions, Except.ok.injEq, List.forall₂_nil_left_iff]
    exact eq_comm
  | cons x xs ih =>
    have hx (t : Transaction) : Transaction.decode x = .ok t ↔ Transaction.Reads x t :=
      Transaction.decode_eq_ok (wellFormed x (by simp))
    have hxs (us : List Transaction) :
        decodeTransactions (i + 1) xs = .ok us ↔ List.Forall₂ Transaction.Reads xs us :=
      ih fun y hy => wellFormed y (by simp [hy])
    rw [decodeTransactions]
    split
    next e he =>
      have hno (t : Transaction) : ¬ Transaction.Reads x t := by
        rw [← hx, he]
        simp
      simp [List.forall₂_cons_left_iff, hno]
    next t ht =>
      simp only [bind_eq_ok, hxs, pure, Except.pure, Except.ok.injEq, List.forall₂_cons_left_iff,
        ← hx, ht]
      constructor
      · rintro ⟨us, hus, rfl⟩
        exact ⟨t, us, rfl, hus, rfl⟩
      · rintro ⟨u, us, rfl, hus, rfl⟩
        exact ⟨us, hus, rfl⟩

/-- What the bytes of a block are read as; items after the transactions are not looked at. -/
inductive Reads (b : Bytes) : Block → Prop
  | intro {head list : Bytes} {rest fields items : List Bytes} {header : Header}
      {transactions : List Transaction} (parts : Rlp.IsList b (head :: list :: rest))
      (headList : Rlp.IsList head fields) (headReads : header.Reads fields)
      (itemList : Rlp.IsList list items)
      (itemReads : List.Forall₂ Transaction.Reads items transactions) :
      Reads b { header, transactions }

/-- Decoding answers what the grammar reads from the bytes, all of them. -/
theorem decode_eq_ok {b : Bytes} {block : Block} : decode b = .ok block ↔ Reads b block := by
  constructor
  · intro h
    rw [decode] at h
    split at h
    next hlist =>
      simp only [bind_eq_ok, liftRlp_eq_ok] at h
      obtain ⟨e, he, h⟩ := h
      split at h
      next => simp at h
      next htotal =>
        have hb := Rlp.wellFormed_of_read_all he (not_lt.mp htotal)
        simp only [bind_eq_ok, listItems_eq_ok hb] at h
        obtain ⟨parts, hparts, h⟩ := h
        split at h
        next head list rest =>
          have hhead := hparts.wellFormed head (by simp)
          have hitems := hparts.wellFormed list (by simp)
          simp only [bind_eq_ok, Header.decode_eq_ok hhead, listItems_eq_ok hitems, pure,
            Except.pure, Except.ok.injEq] at h
          obtain ⟨header, ⟨fields, hfl, hfr⟩, items, hil, ts, hts, rfl⟩ := h
          rw [decodeTransactions_eq_ok hil.wellFormed] at hts
          exact .intro hparts hfl hfr hil hts
        next => simp at h
    next => simp at h
  · intro h
    cases h with
    | @intro head list rest fields items header ts hparts hfl hfr hil hts =>
      have hb : Rlp.WellFormed b := .list hparts.frame
      obtain ⟨extent, hread, htotal⟩ := hb.read_self
      have hh : Header.decode head = .ok header :=
        (Header.decode_eq_ok (.list hfl.frame)).mpr ⟨fields, hfl, hfr⟩
      have hi : listItems "transaction list" list = .ok items :=
        (listItems_eq_ok (.list hil.frame)).mpr hil
      have ht : decodeTransactions 0 items = .ok ts :=
        (decodeTransactions_eq_ok hil.wellFormed).mpr hts
      rw [decode, if_pos hparts.isList_self]
      simp only [bind_eq_ok, liftRlp_eq_ok]
      refine ⟨_, hread, ?_⟩
      rw [if_neg htotal.symm.not_gt]
      simp only [bind_eq_ok, listItems_eq_ok hb]
      exact ⟨_, hparts, bind_eq_ok.mpr ⟨_, hh, bind_eq_ok.mpr ⟨_, hi, bind_eq_ok.mpr ⟨_, ht, rfl⟩⟩⟩⟩

theorem length_transactions_lt {b : Bytes} {block : Block} (h : decode b = .ok block) :
    block.transactions.length < 2 ^ 64 := by
  rw [decode_eq_ok] at h
  cases h with
  | intro _ _ _ itemList itemReads =>
    rw [← itemReads.length_eq]
    exact itemList.length_lt

end Block

end VectorReplay
