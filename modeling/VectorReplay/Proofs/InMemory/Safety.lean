import VectorReplay.Proofs.InMemory.Submission
import VectorReplay.Proofs.Ledger.ChainId
import VectorReplay.Proofs.Ledger.Overflow

/-!
Submissions of decoded transactions that are neither accepted nor refused: which encodings and which
ledgers they need.
-/
namespace VectorReplay

theorem Block.reads_of_mem {bytes : Bytes} {b : Block} {t : Transaction}
    (h : Block.decode bytes = .ok b) (ht : t ∈ b.transactions) :
    ∃ item, Transaction.Reads item t := by
  rw [decode_eq_ok] at h
  cases h with
  | intro _ _ _ _ itemReads => exact exists_forall₂_iff.mp ⟨_, itemReads.flip⟩ t ht

namespace Ledger

variable {l : Ledger} {crypto : Crypto}

theorem submit_aborts_iff {encoded : Bytes} : (submit crypto encoded).Aborts l ↔
    Transfer.decode crypto encoded = .error .aborted ∨
      ∃ x, Transfer.decode crypto encoded = .ok x ∧ (transfer x).Aborts l := by
  unfold submit
  cases Transfer.decode crypto encoded with
  | error e => simp [Change.Aborts]
  | ok x => simp

end Ledger

/-- Of what a block can hold, only lists are read as transfers. -/
theorem Transaction.Reads.misfit_iff {item : Bytes} {t : Transaction} (h : Reads item t)
    (crypto : Crypto) : Transfer.decode crypto t.encoded = .error .aborted ↔
      ∃ fields, Rlp.IsList t.encoded fields ∧ Transfer.Misfit fields := by
  cases h with
  | @legacy fields v nonce chainId list count signature chain number =>
    rw [Transfer.decode_eq_aborted_iff list count number signature]
    constructor
    · exact fun misfit => ⟨fields, list, misfit⟩
    · rintro ⟨fields', list', misfit⟩
      rwa [list.unique list']
  | @typed byte body kind fields chainId nonce string envelope list count chain number =>
    have hlist := not_isList_of_ofByte? envelope body
    rw [Transfer.decode_of_not_isList hlist]
    refine iff_of_false (by simp) ?_
    rintro ⟨fields', list', -⟩
    rw [list'.isList_self] at hlist
    cases hlist

namespace InMemory

variable {crypto : Crypto}

/-- A submission is answered, whatever it carries, unless a number leaves its range. -/
theorem submit_answered (encoded : Bytes) (m : InMemory) :
    ((node crypto).answer (.submit encoded) m).1 = .ok (crypto.hash encoded) ∨
    (∃ e, ((node crypto).answer (.submit encoded) m).1 = .error (.failed e)) ∨
    ((node crypto).answer (.submit encoded) m).1 = .error .aborted := by
  cases hu : m.unreachable with
  | true =>
    rw [answer_of_unreachable hu]
    exact .inr (.inl ⟨_, rfl⟩)
  | false =>
    rw [answer_of_reachable hu, reachable, submit]
    rcases Ledger.submit crypto encoded m.ledger with ⟨(r | _) | _, ledger⟩
    · exact .inr (.inl ⟨_, rfl⟩)
    · exact .inr (.inr rfl)
    · exact .inl rfl

theorem answer_aborts_iff (encoded : Bytes) (m : InMemory) :
    ((node crypto).answer (.submit encoded) m).1 = .error .aborted ↔
      m.unreachable = false ∧ (Ledger.submit crypto encoded).Aborts m.ledger := by
  cases hu : m.unreachable with
  | true =>
    rw [answer_of_unreachable hu]
    simp
  | false =>
    rw [answer_of_reachable hu, reachable, submit, Ledger.Change.Aborts]
    rcases Ledger.submit crypto encoded m.ledger with ⟨(r | _) | _, ledger⟩
    case error.aborted => exact iff_of_true rfl ⟨rfl, rfl⟩
    all_goals exact iff_of_false (by rintro ⟨⟩) (by rintro ⟨-, ⟨⟩⟩)

/-- A decoded transaction is accepted or refused, unless its fields do not fit or a number of its
transfer overflows in the ledger as it is. -/
theorem aborts_iff_misfit_or_overflows {bytes : Bytes} {b : Block} {t : Transaction}
    (decoded : Block.decode bytes = .ok b) (mem : t ∈ b.transactions) (m : InMemory) :
    (((node crypto).answer (.submit t.encoded) m).1 = .error .aborted ↔
      m.unreachable = false ∧
        ((∃ fields, Rlp.IsList t.encoded fields ∧ Transfer.Misfit fields) ∨
          ∃ x, Transfer.decode crypto t.encoded = .ok x ∧
            (∀ id ∈ m.ledger.chainId, id = x.chainId) ∧
            m.ledger.world.Overflows m.ledger.context x)) ∧
    (((node crypto).answer (.submit t.encoded) m).1 = .ok (t.hash crypto.hash) ∨
      (∃ e, ((node crypto).answer (.submit t.encoded) m).1 = .error (.failed e)) ∨
      ((node crypto).answer (.submit t.encoded) m).1 = .error .aborted) := by
  refine ⟨?_, submit_answered t.encoded m⟩
  obtain ⟨item, reads⟩ := Block.reads_of_mem decoded mem
  rw [answer_aborts_iff, Ledger.submit_aborts_iff, reads.misfit_iff]
  simp only [Ledger.transfer_aborts_iff]

open Payment (form block block_decoded) in
/-- The payment meets a base fee above its price. -/
theorem aborts_iff_misfit_or_overflows_payment : ∃ t ∈ block.transactions,
    Block.decode form.encode = .ok block ∧
    ((node Payment.crypto).answer (.submit t.encoded)
      { fresh 0 with ledger := { Ledger.empty with baseFee := 20 } }).1 = .error .aborted := by
  have mem : block.transactions.head nofun ∈ block.transactions := List.head_mem _
  refine ⟨_, mem, block_decoded, ?_⟩
  refine (aborts_iff_misfit_or_overflows block_decoded mem _).1.mpr ⟨rfl, .inr ?_⟩
  have h : (Transfer.decode Payment.crypto (block.transactions.head nofun).encoded).toOption.map
      Transfer.gasPrice = some 10 := by
    decide +kernel
  obtain ⟨x, hx, hprice⟩ := Option.map_eq_some_iff.mp h
  refine ⟨x, eq_ok_of_toOption hx, nofun, .underpriced ?_⟩
  rw [hprice]
  decide

/-! ### A transfer of everything -/

namespace Lavish

open Rlp (encodeString)

/-- The largest value there is, at a price of one, on chain 1. -/
def transaction : Transaction.Form :=
  .legacy [] ([[1], [0x52, 0x08], List.replicate 20 0x22, List.replicate 32 0xFF, []].map
    encodeString) [37] ([
      Bytes.ofNat 0x5cbdf0646e5db4eaa398f365f2ea7a0e3d419b7e0330e39ce92bddedcac4f9bc,
      Bytes.ofNat 0x3d525fde529df5ef568dca9b589bb555b2b15bc4e9528e70d2213d2d2c044fad].map
    encodeString)

def form : Block.Form where
  header := List.replicate 2 [] ++ [List.replicate 20 0] ++ List.replicate 12 []
  transactions := [transaction]
  rest := []

theorem form_fits : form.Fits where
  count := by decide
  coinbase := by decide
  words := by decide
  timestamp := by decide
  transactions := by
    intro t ht
    rw [List.mem_singleton.mp ht]
    exact .ofStrings rfl rfl (by decide) (by decide) (by decide +kernel)
  rest := by simp [form]
  size := by decide +kernel

theorem form_narrow : form.Narrow where
  timestamp := by decide
  transactions := by decide

end Lavish

open Lavish in
/-- Nobody has the value and the fee, but their sum is formed before the balance is looked at. -/
theorem not_answered_lavish : ∃ bytes b t, Block.decode bytes = .ok b ∧ t ∈ b.transactions ∧
    ((node .ethereum).answer (.submit t.encoded) (fresh 0)).1 = .error .aborted := by
  obtain ⟨header, -, decoded⟩ := form_fits.exists_decode form_narrow
  refine ⟨form.encode, _, transaction.transaction, decoded, List.mem_cons_self, ?_⟩
  have hsubmit : (Ledger.submit .ethereum transaction.transaction.encoded .empty).1 =
      .error .aborted := by
    decide +kernel
  exact (answer_aborts_iff _ _).mpr ⟨rfl, hsubmit⟩

end InMemory

end VectorReplay
