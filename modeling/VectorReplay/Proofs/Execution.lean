import VectorReplay.Session
import VectorReplay.Proofs.Block.Encoding
import VectorReplay.Proofs.InMemory.Replaying
import VectorReplay.Proofs.InMemory.Seeding
import VectorReplay.Proofs.InMemory.Verifying

/-!
The verdict of a whole run on the in-memory node: when a vector passes, in terms of balances,
nonces, code and storage.
-/
namespace VectorReplay

/-! ### Patience -/

theorem patient_execute {σ : Type} (crypto : Crypto) (node : Node σ) (skip : SkipList)
    (v : TestVector) (b : Block) : Stage.Patient fun n => execute crypto node n skip v b := by
  refine (Stage.patient_const _).bind fun _ => (Replay.patient_block crypto node b).bind fun _ => ?_
  exact Stage.patient_const _

/-- A run that polls passes: with enough patience it ends, and it ends well. -/
def Stage.Passes {σ α : Type} (m : (patience : Nat) → Stage σ α) (run : Run σ) : Prop :=
  ∃ result final, Stage.Ends m run (.ok result, final)

theorem Stage.Patient.passes_iff {σ α : Type} {m : Nat → Stage σ α} (h : Stage.Patient m)
    {run : Run σ} {enough : Nat} {P : Prop}
    (hm : ∀ patience, enough ≤ patience → ((∃ a run', m patience run = (.ok a, run')) ↔ P)) :
    Stage.Passes m run ↔ P := by
  constructor
  · rintro ⟨a, run', bound, hends⟩
    exact (hm (max bound enough) (by omega)).mp ⟨a, run', hends _ (by omega)⟩
  · intro hP
    obtain ⟨a, run', hrun⟩ := (hm enough (Nat.le_refl _)).mpr hP
    refine ⟨a, run', ?_⟩
    rw [← hrun]
    exact h.ends (by rw [hrun]; nofun)

/-! ### The verdict -/

namespace InMemory

variable {crypto : Crypto} {p : Nat}

theorem follows_execute {v : TestVector} {b : Block} {patience : Nat} (skip : SkipList)
    (distinct : v.pre.Distinct) (hlt : b.transactions.length < 2 ^ 64) (hp : p < patience) :
    Follows (execute crypto (node crypto) patience skip v b) (Run.start (fresh p))
      ((if b.transactions = [] then none
        else World.replay crypto (Context.ofBlock b) (World.ofAccounts v.pre)
          (b.transactions.map Transaction.encoded)).bind fun w =>
        check (∀ e ∈ v.post, skip.contains e.1 = false → w.Agrees e.1 e.2))
      fun _ _ _ => True := by
  refine follows_seq (follows_seed distinct b) fun _ run₁ h₁ => ?_
  refine (follows_replay hlt hp h₁).bind fun w result run₂ h₂ => ?_
  exact (follows_verify skip v.post h₂).andThen fun _ _ run₃ _ => follows_of_ok rfl trivial

end InMemory

/-- A run passes exactly if the block has a transaction, all transfers go through one after the
other from the accounts before the block, and the world that results agrees with the accounts after
it. -/
theorem execute_passes_iff (crypto : Crypto) {v : TestVector} {bytes : Bytes} {b : Block}
    (distinct : v.pre.Distinct) (decoded : Block.decode bytes = .ok b) (skip : SkipList)
    (pendingPolls : Nat) :
    Stage.Passes (fun patience => execute crypto (InMemory.node crypto) patience skip v b)
        (Run.start (InMemory.fresh pendingPolls)) ↔
      b.transactions ≠ [] ∧ ∃ w,
        World.replay crypto (Context.ofBlock b) (World.ofAccounts v.pre)
          (b.transactions.map Transaction.encoded) = some w ∧
        ∀ e ∈ v.post, skip.contains e.1 = false → w.Agrees e.1 e.2 := by
  have hlt := Block.length_transactions_lt decoded
  apply (patient_execute crypto _ skip v b).passes_iff
  intro patience (enough : pendingPolls + 1 ≤ patience)
  rw [(InMemory.follows_execute skip distinct hlt enough).succeeds_iff]
  by_cases hempty : b.transactions = []
  · simp [hempty]
  · rw [if_neg hempty]
    constructor
    · rintro ⟨_, h⟩
      obtain ⟨w, hw, hg⟩ := Option.bind_eq_some_iff.mp h
      exact ⟨hempty, w, hw, check_eq_some.mp hg⟩
    · rintro ⟨-, w, hw, hg⟩
      rw [hw]
      exact ⟨(), check_eq_some.mpr hg⟩

/-! ### A payment -/

namespace Payment

def payer : Address := FixedBytes.ofNat 20 1
def payee : Address := FixedBytes.ofNat 20 2
def miner : Address := FixedBytes.ofNat 20 3

/-- Every signature is the payer's. -/
def crypto : Crypto where
  hash _ := FixedBytes.zero 32
  recover _ _ _ := some payer

/-- Five units at a price of ten, in a block with a base fee of seven. -/
def form : Block.Form where
  header := List.replicate 2 [] ++ [miner.bytes] ++ List.replicate 12 [] ++ [[7]]
  transactions := [.legacy [] ([[10], [], payee.bytes, [5], []].map Rlp.encodeString) [37]
    ([[], []].map Rlp.encodeString)]
  rest := []

def header : Header where
  coinbase := miner
  number := 0
  gasLimit := 0
  gasUsed := 0
  timestamp := 0
  baseFee := some 7
  hardfork := .london

def vector : TestVector where
  pre := [(payer, ⟨[], 210005, 0, .empty⟩)]
  blocks := [Hex.marked form.encode]
  post := [
    (payer, ⟨[], 0, 1, .empty⟩), (payee, ⟨[], 5, 0, .empty⟩), (miner, ⟨[], 63000, 0, .empty⟩)]
  network := none

theorem form_fits : form.Fits where
  count := by decide
  coinbase := by decide
  words := by decide
  timestamp := by decide
  transactions := by
    intro t ht
    rw [List.mem_singleton.mp ht]
    refine .legacy rfl rfl (by decide) (by decide) fun x hx => ?_
    have hstring (s : Bytes) (hs : s ∈ [[10], [], payee.bytes, [5], [], [], []]) :
        Rlp.WellFormed (Rlp.encodeString s) := by
      have hlen : s.length < 2 ^ 64 := by
        revert s
        decide
      exact .string (Rlp.isString_encodeString hlen)
    rw [← List.map_append] at hx
    obtain ⟨s, hs, rfl⟩ := List.mem_map.mp hx
    exact hstring s hs
  rest := by simp [form]
  size := by decide_cbv

theorem form_narrow : form.Narrow where
  timestamp := by decide
  transactions := by decide

theorem form_says : form.Says header where
  coinbase := rfl
  number := rfl
  gasLimit := rfl
  gasUsed := rfl
  timestamp := rfl
  baseFee := rfl
  hardfork := rfl

def block : Block where
  header := header
  transactions := form.transactions.map Transaction.Form.transaction

theorem block_decoded : Block.decode form.encode = .ok block :=
  form_fits.decode_encode form_narrow form_says

theorem transfers_agree : ((World.replay crypto (Context.ofBlock block)
    (World.ofAccounts vector.pre) (block.transactions.map Transaction.encoded)).any fun w =>
      decide (∀ e ∈ vector.post, w.Agrees e.1 e.2)) = true := by
  decide +kernel

end Payment

open Payment in
/-- The payment passes, although every receipt is pending twice. -/
theorem execute_passes_payment : vector.pre.Distinct ∧ Block.decode form.encode = .ok block ∧
    Stage.Passes (fun patience => execute crypto (InMemory.node crypto) patience ⟨[]⟩ vector block)
      (Run.start (InMemory.fresh 2)) := by
  have distinct : vector.pre.Distinct := by decide
  refine ⟨distinct, block_decoded, (execute_passes_iff crypto distinct block_decoded ⟨[]⟩ 2).mpr ?_⟩
  obtain ⟨w, hw, hagree⟩ := (Option.any_eq_true _ _).mp transfers_agree
  exact ⟨by decide, w, hw, fun e he _ => of_decide_eq_true hagree e he⟩

end VectorReplay
