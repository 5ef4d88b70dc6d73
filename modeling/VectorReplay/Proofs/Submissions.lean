import VectorReplay.Session
import VectorReplay.Proofs.Replay
import VectorReplay.Proofs.Seed

/-!
What a run submits to its node, whatever the node answers: the transactions of the block in their
order, as far as the run gets.
-/
namespace VectorReplay

variable {σ α β : Type}

namespace Exchange

def submission? (e : Exchange) : Option Bytes :=
  match e.call with
  | .submit encoded => some encoded
  | _ => none

end Exchange

def submissions (es : List Exchange) : List Bytes :=
  es.filterMap Exchange.submission?

@[simp] theorem submissions_append (es es' : List Exchange) :
    submissions (es ++ es') = submissions es ++ submissions es' :=
  List.filterMap_append

namespace Stage

/-- A stage submits these encodings one after the other, all of them unless it fails. -/
def Submits (m : Stage σ α) (encodings : List Bytes) : Prop :=
  m.Does fun es r => submissions es <+: encodings ∧ ∀ a, r = .ok a → submissions es = encodings

theorem submits_pure (a : α) : (pure a : Stage σ α).Submits [] :=
  yields_pure a

theorem submits_throw (e : Fault) : (throw e : Stage σ α).Submits [] :=
  yields_throw e

theorem submits_tell (reports : List Report) : (tell reports : Stage σ Unit).Submits [] :=
  yields_tell reports

theorem submits_submit (node : Node σ) (encoded : Bytes) :
    (perform node (.submit encoded)).Submits [encoded] :=
  yields_perform node (some encoded) fun _ => rfl

theorem submits_perform (node : Node σ) {c : Call} (h : ∀ encoded, c ≠ .submit encoded) :
    (perform node c).Submits [] := by
  apply yields_perform node none
  intro reply
  cases c <;> first | rfl | exact absurd rfl (h _)

theorem Submits.bind {m : Stage σ α} {f : α → Stage σ β} {as bs : List Bytes} (hm : m.Submits as)
    (hf : ∀ a, (f a).Submits bs) : (m >>= f).Submits (as ++ bs) :=
  Yields.bind hm hf

/-- Before and after the submissions, stages that submit nothing do not count. -/
theorem Submits.bind_quiet {m : Stage σ α} {f : α → Stage σ β} {as : List Bytes}
    (hm : m.Submits as) (hf : ∀ a, (f a).Submits []) : (m >>= f).Submits as :=
  Yields.bind_quiet hm hf

theorem submits_forM {γ : Type} {f : γ → Stage σ PUnit} (h : ∀ c, (f c).Submits []) (cs : List γ) :
    (cs.forM f).Submits [] :=
  yields_forM_quiet h cs

end Stage

open Stage

/-! ### Before and after the block -/

theorem Seed.submits_account (crypto : Crypto) (node : Node σ) (address : Address) (a : Account) :
    (Seed.account crypto node address a).Submits [] := by
  refine (submits_perform node (by nofun)).bind_quiet fun _ => ?_
  refine (submits_perform node (by nofun)).bind_quiet fun _ => ?_
  refine (submits_perform node (by nofun)).bind_quiet fun _ => ?_
  refine (submits_forM (fun _ => submits_perform node (by nofun)) _).bind_quiet fun _ => ?_
  exact submits_tell _

theorem Seed.submits_chainId (node : Node σ) (b : Block) : (Seed.chainId node b).Submits [] := by
  unfold Seed.chainId
  split
  · exact submits_pure _
  · refine (submits_perform node (by nofun)).bind_quiet fun _ => ?_
    exact submits_forM (fun _ => submits_tell _) _

theorem Seed.submits_block (crypto : Crypto) (node : Node σ) (b : Block) :
    (Seed.block crypto node b).Submits [] := by
  have hfee : (Seed.baseFee node b.header.baseFee).Submits [] := by
    unfold Seed.baseFee
    split
    · exact submits_pure _
    · exact submits_perform node (by nofun)
  rw [Seed.block_eq]
  refine (Seed.submits_chainId node b).bind_quiet fun _ => ?_
  refine (submits_perform node (by nofun)).bind_quiet fun _ => ?_
  refine hfee.bind_quiet fun _ => ?_
  exact (submits_perform node (by nofun)).bind_quiet fun _ => submits_tell _

theorem Seed.submits_all (crypto : Crypto) (node : Node σ) (pre : Accounts) (b : Block) :
    (Seed.all crypto node pre b).Submits [] := by
  refine (submits_forM (fun _ => Seed.submits_account crypto node _ _) pre).bind_quiet fun _ => ?_
  refine (Seed.submits_block crypto node b).bind_quiet fun _ => ?_
  exact submits_tell _

theorem Verify.submits_compare {γ : Type} [DecidableEq γ] (crypto : Crypto) (address : Address)
    (field : StateField) (text : γ → String) (expected actual : γ) :
    (Verify.compare crypto address field text expected actual : Stage σ Unit).Submits [] := by
  unfold Verify.compare
  split
  · exact submits_pure _
  · exact submits_throw _

theorem Verify.submits_account (crypto : Crypto) (node : Node σ) (address : Address)
    (expected : Account) : (Verify.account crypto node address expected).Submits [] := by
  unfold Verify.account
  refine (submits_perform node (by nofun)).bind_quiet fun _ => ?_
  refine (Verify.submits_compare _ _ _ _ _ _).bind_quiet fun _ => ?_
  refine (submits_perform node (by nofun)).bind_quiet fun _ => ?_
  refine (Verify.submits_compare _ _ _ _ _ _).bind_quiet fun _ => ?_
  refine (submits_perform node (by nofun)).bind_quiet fun _ => ?_
  refine (Verify.submits_compare _ _ _ _ _ _).bind_quiet fun _ => ?_
  refine submits_forM (fun _ => ?_) _
  exact (submits_perform node (by nofun)).bind_quiet fun _ => Verify.submits_compare _ _ _ _ _ _

theorem Verify.submits_accounts (crypto : Crypto) (node : Node σ) (skip : SkipList)
    (post : Accounts) : (Verify.accounts crypto node skip post).Submits [] := by
  induction post with
  | nil => exact submits_pure _
  | cons entry post ih =>
    obtain ⟨address, expected⟩ := entry
    unfold Verify.accounts
    split
    · exact (submits_tell _).bind_quiet fun _ => ih
    · refine (Verify.submits_account crypto node address expected).bind_quiet fun _ => ?_
      exact ih.bind_quiet fun _ => submits_pure _

theorem Verify.submits_all (crypto : Crypto) (node : Node σ) (skip : SkipList) (post : Accounts) :
    (Verify.all crypto node skip post).Submits [] :=
  (Verify.submits_accounts crypto node skip post).bind_quiet fun _ => submits_tell _

/-! ### The block -/

theorem Replay.submits_awaitReceipt (node : Node σ) (h : Hash) (patience : Nat) :
    (Replay.awaitReceipt node h patience).Submits [] := by
  induction patience with
  | zero => exact submits_throw _
  | succ patience ih =>
    refine (submits_perform node (by nofun)).bind_quiet fun r => ?_
    match r with
    | some x => exact submits_pure x
    | none => exact ih

theorem Replay.submits_transaction (crypto : Crypto) (node : Node σ) (patience i : Nat)
    (t : Transaction) : (Replay.transaction crypto node patience i t).Submits [t.encoded] := by
  rw [Replay.transaction_eq]
  refine (submits_submit node t.encoded).bind_quiet fun accepted => ?_
  refine (submits_tell _).bind_quiet fun _ => ?_
  refine (Replay.submits_awaitReceipt node accepted patience).bind_quiet fun r => ?_
  exact (submits_tell _).bind_quiet fun _ => submits_pure r

theorem Replay.submits_transactions (crypto : Crypto) (node : Node σ) (patience i : Nat)
    (ts : List Transaction) :
    (Replay.transactions crypto node patience i ts).Submits (ts.map Transaction.encoded) := by
  induction ts generalizing i with
  | nil => exact submits_pure _
  | cons t ts ih =>
    refine (Replay.submits_transaction crypto node patience i t).bind fun r => ?_
    exact (ih (i + 1)).bind_quiet fun rs => submits_pure _

theorem Replay.submits_block (crypto : Crypto) (node : Node σ) (patience : Nat) (b : Block) :
    (Replay.block crypto node patience b).Submits (b.transactions.map Transaction.encoded) := by
  unfold Replay.block
  split
  next hempty =>
    rw [List.isEmpty_iff.mp hempty]
    exact submits_throw _
  next =>
    refine (Replay.submits_transactions crypto node patience 0 _).bind_quiet fun rs => ?_
    have hconclude : (Replay.conclude b.header.gasUsed ⟨rs⟩ : Stage σ Unit).Submits [] := by
      rw [Replay.conclude_eq]
      split
      · exact submits_throw _
      · exact submits_tell _
    exact hconclude.bind_quiet fun _ => submits_pure _

/-- A run submits what its block carries, in the order of the block, and nothing else. -/
theorem submits_execute (crypto : Crypto) (node : Node σ) (patience : Nat) (skip : SkipList)
    (v : TestVector) (b : Block) :
    (execute crypto node patience skip v b).Submits (b.transactions.map Transaction.encoded) := by
  refine (Seed.submits_all crypto node v.pre b).bind fun _ => ?_
  refine (Replay.submits_block crypto node patience b).bind_quiet fun result => ?_
  exact (Verify.submits_all crypto node skip v.post).bind_quiet fun _ => submits_pure result

end VectorReplay
