import VectorReplay.Proofs.Block.Encoding
import VectorReplay.Proofs.Submissions

/-!
No byte of a transaction is lost: the encodings of a decoded block give back its transaction list,
and they are what a run submits.
-/
namespace VectorReplay

namespace Transaction

/-- The item that carries an encoding: a list stands for itself, all else is wrapped as a string. -/
def itemOf (encoded : Bytes) : Bytes :=
  if Rlp.isList encoded then encoded else Rlp.encodeString encoded

theorem not_isList_of_ofByte? {byte : UInt8} {kind : Kind} (h : Kind.ofByte? byte = some kind)
    (body : Bytes) : Rlp.isList (byte :: body) = false := by
  have hmem := Kind.mem_envelopes_iff.mpr ⟨h, rfl⟩
  simp only [Kind.envelopes, List.mem_cons, Prod.mk.injEq, List.not_mem_nil, or_false] at hmem
  rcases hmem with ⟨rfl, -⟩ | ⟨rfl, -⟩ | ⟨rfl, -⟩ | ⟨rfl, -⟩ <;> rfl

/-- A typed transaction is longer than its type byte, so that its string has one form only. -/
theorem Reads.eq_itemOf {item : Bytes} {t : Transaction} (h : Reads item t) :
    item = itemOf t.encoded := by
  cases h with
  | legacy list => exact (if_pos list.isList_self).symm
  | @typed byte body kind fields chainId nonce string envelope list =>
    have hbody : 0 < body.length := by
      have := list.frame.length_lt
      omega
    have hlist := not_isList_of_ofByte? envelope body
    change item = itemOf (byte :: body)
    rw [itemOf, hlist, if_neg Bool.false_ne_true]
    exact string.eq_encodeString (by rw [List.length_cons]; omega)

end Transaction

namespace Block

/-- The second item of a block, as it stands there. -/
def transactionList? (b : Bytes) : Option Bytes :=
  match Rlp.items b with
  | .ok parts => parts[1]?
  | .error _ => none

theorem transactionList?_of_decode {b : Bytes} {block : Block} (h : decode b = .ok block) :
    transactionList? b = some (Rlp.encodeList
      ((block.transactions.map Transaction.encoded).map Transaction.itemOf)) := by
  rw [decode_eq_ok] at h
  cases h with
  | @intro head list rest fields items header ts parts headList headReads itemList itemReads =>
    have hparts := parts.items []
    rw [List.append_nil] at hparts
    have hitems : items = (ts.map Transaction.encoded).map Transaction.itemOf := by
      clear itemList
      induction itemReads with
      | nil => rfl
      | cons hx _ ih => rw [ih, hx.eq_itemOf]; rfl
    simp only [transactionList?, hparts]
    rw [List.getElem?_cons_succ, List.getElem?_cons_zero, (Rlp.isList_iff.mp itemList).1, hitems]

/-- The transactions of a decoded block determine its transaction list, byte for byte, and a run
submits them as they stand there. -/
theorem transactions_kept {b : Bytes} {block : Block} (h : decode b = .ok block) :
    transactionList? b = some (Rlp.encodeList
      ((block.transactions.map Transaction.encoded).map Transaction.itemOf)) ∧
    (∀ b' block', decode b' = .ok block' →
      block'.transactions.map Transaction.encoded = block.transactions.map Transaction.encoded →
      transactionList? b' = transactionList? b) ∧
    ∀ (σ : Type) (crypto : Crypto) (node : Node σ) (patience : Nat) (skip : SkipList)
      (v : TestVector), (execute crypto node patience skip v block).Submits
        (block.transactions.map Transaction.encoded) := by
  refine ⟨transactionList?_of_decode h, ?_, ?_⟩
  · intro b' block' h' heq
    rw [transactionList?_of_decode h', heq, transactionList?_of_decode h]
  · intro σ crypto node patience skip v
    exact submits_execute crypto node patience skip v block

/-- A list and a string among the transactions. -/
theorem transactions_kept_mixed : ∃ header, decode Form.mixed.encode = .ok {
      header, transactions := Form.mixed.transactions.map Transaction.Form.transaction } ∧
    transactionList? Form.mixed.encode =
      some (Rlp.encodeList (Form.mixed.transactions.map Transaction.Form.item)) := by
  obtain ⟨header, -, h⟩ := Form.mixed_fits.exists_decode Form.mixed_narrow
  refine ⟨header, h, (transactions_kept h).1.trans ?_⟩
  rfl

end Block

end VectorReplay
