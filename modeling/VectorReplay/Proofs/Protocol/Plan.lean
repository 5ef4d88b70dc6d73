import VectorReplay.Proofs.Protocol.Conduct
import VectorReplay.Proofs.Seed

/-!
The plan of seeding: the administrative calls for the accounts and the context of a block, in their
order. On any node, seeding goes along the plan up to the first call that fails.
-/
namespace VectorReplay

variable {σ : Type}

/-- An exchange by its call, if that is administrative. -/
def Exchange.administration? (x : Exchange) : Option Call :=
  if x.call.isAdministrative then some x.call else none

def administration (es : List Exchange) : List Call :=
  es.filterMap Exchange.administration?

theorem administration_of_none {es : List Exchange} (h : ∀ x ∈ es, x.call.isAdministrative = false) :
    administration es = [] := by
  apply List.filterMap_eq_nil_iff.mpr
  intro x hx
  simp [Exchange.administration?, h x hx]

namespace Seed

/-- Code, balance, nonce, and every slot by ascending key. -/
def accountPlan (address : Address) (a : Account) : List Call :=
  .setCode address a.code :: .setBalance address a.balance :: .setNonce address a.nonce ::
    a.storage.entries.map fun (key, value) =>
      .setStorage address (Word.toHash key) (Word.toHash value)

/-- The chain id of the first transaction, if it declares one, the coinbase, the base fee, if the
header has one, and the gas limit. -/
def contextPlan (b : Block) : List Call :=
  (b.transactions.head?.bind Transaction.chainId).toList.map .setChainId ++
    .setCoinbase b.header.coinbase :: (b.header.baseFee.toList.map .setNextBaseFee ++
      [.setGasLimit b.header.gasLimit])

def plan (pre : Accounts) (b : Block) : List Call :=
  pre.flatMap (fun (address, a) => accountPlan address a) ++ contextPlan b

open Stage

/-- An administrative call comes first in the plan of what it stands before. -/
theorem yields_call {α : Type} (node : Node σ) {c : Call} {f : c.Reply → Stage σ α}
    {plan : List Call} (h : c.isAdministrative)
    (hf : ∀ reply, (f reply).Yields Exchange.administration? plan) :
    (perform node c >>= f).Yields Exchange.administration? (c :: plan) :=
  (yields_perform node (some c) fun _ => if_pos h).bind hf

theorem yields_last (node : Node σ) {c : Call} (h : c.isAdministrative) :
    (perform node c).Yields Exchange.administration? [c] :=
  yields_perform node (some c) fun _ => if_pos h

theorem yields_account (crypto : Crypto) (node : Node σ) (address : Address) (a : Account) :
    (account crypto node address a).Yields Exchange.administration? (accountPlan address a) := by
  refine yields_call node rfl fun _ => yields_call node rfl fun _ => ?_
  refine yields_call node rfl fun _ => ?_
  rw [List.map_eq_flatMap]
  refine Yields.bind_quiet ?_ fun _ => yields_tell _
  exact yields_forM (fun _ => yields_last node rfl) _

theorem yields_chainId (node : Node σ) (b : Block) : (chainId node b).Yields
    Exchange.administration?
      ((b.transactions.head?.bind Transaction.chainId).toList.map .setChainId) := by
  unfold chainId Block.chainId
  cases b.transactions.head?.bind Transaction.chainId with
  | none => exact yields_pure _
  | some c =>
    refine yields_call node rfl fun _ => ?_
    exact yields_forM_quiet (fun _ => yields_tell _) _

theorem yields_baseFee (node : Node σ) (fee : Option Word) :
    (baseFee node fee).Yields Exchange.administration? (fee.toList.map .setNextBaseFee) := by
  cases fee with
  | none => exact yields_pure _
  | some fee => exact yields_last node rfl

theorem yields_block (crypto : Crypto) (node : Node σ) (b : Block) :
    (block crypto node b).Yields Exchange.administration? (contextPlan b) := by
  rw [block_eq]
  refine (yields_chainId node b).bind fun _ => yields_call node rfl fun _ => ?_
  refine (yields_baseFee node b.header.baseFee).bind fun _ => ?_
  exact yields_call node rfl fun _ => yields_tell _

theorem yields_all (crypto : Crypto) (node : Node σ) (pre : Accounts) (b : Block) :
    (all crypto node pre b).Yields Exchange.administration? (plan pre b) := by
  refine (yields_forM (fun _ => yields_account crypto node _ _) pre).bind fun _ => ?_
  exact (yields_block crypto node b).bind_quiet fun _ => yields_tell _

/-- Seeding makes administrative calls only and fails only if one of them does. -/
def rules : Rules where
  calls c := c.isAdministrative
  faults _ := False
  reports l := l ≠ .success

theorem obeys_account (crypto : Crypto) (node : Node σ) (address : Address) (a : Account) :
    (account crypto node address a).Obeys rules := by
  unfold account
  refine (obeys_perform node rfl).bind fun _ => ?_
  refine (obeys_perform node rfl).bind fun _ => ?_
  refine (obeys_perform node rfl).bind fun _ => ?_
  refine (obeys_forM (fun _ => obeys_perform node rfl) _).bind fun _ => ?_
  exact obeys_report (by simp [rules])

theorem obeys_all (crypto : Crypto) (node : Node σ) (pre : Accounts) (b : Block) :
    (all crypto node pre b).Obeys rules := by
  have hchain : (chainId node b).Obeys rules := by
    unfold chainId
    split
    · exact obeys_pure _
    · refine (obeys_perform node rfl).bind fun _ => ?_
      exact obeys_forM (fun _ => obeys_report (by simp [rules])) _
  have hfee : (baseFee node b.header.baseFee).Obeys rules := by
    unfold baseFee
    split
    · exact obeys_pure _
    · exact obeys_perform node rfl
  have hblock : (block crypto node b).Obeys rules := by
    rw [block_eq]
    refine hchain.bind fun _ => (obeys_perform node rfl).bind fun _ => ?_
    refine hfee.bind fun _ => (obeys_perform node rfl).bind fun _ => ?_
    exact obeys_tell (by simp [rules, contextReport])
  refine (obeys_forM (fun _ => obeys_account crypto node _ _) pre).bind fun _ => ?_
  exact hblock.bind fun _ => obeys_report (by simp [rules])

end Seed

end VectorReplay
