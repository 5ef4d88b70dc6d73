import VectorReplay.Proofs.Ledger.Transfer
import Mathlib.Algebra.BigOperators.Pi

/-!
The money in a ledger. A transfer moves it between the sender, the recipient and the coinbase,
whichever of them coincide, and only the base fee of the gas is lost.
-/
namespace VectorReplay

/-! ### Worlds -/

namespace World

variable {c : Context} {t : Transfer} {w w' : World} {a : Address}

theorem debit_eq_some {nonce cost : Nat} (h : w.debit a nonce cost = some w') :
    w.nonce a = nonce ∧ w'.balance + Pi.single a cost = w.balance ∧
    w'.nonce = Function.update w.nonce a (nonce + 1) ∧ w'.code = w.code ∧ w'.slot = w.slot := by
  rw [debit, Option.ite_none_right_eq_some] at h
  obtain ⟨⟨hnonce, hcost, -⟩, h⟩ := h
  cases h
  refine ⟨hnonce, funext fun b => ?_, rfl, rfl, rfl⟩
  by_cases hb : b = a
  · subst hb
    simp [Nat.sub_add_cancel hcost]
  · simp [hb]

theorem credit_eq_some {amount : Nat} (h : w.credit a amount = some w') :
    w'.balance = w.balance + Pi.single a amount ∧ w'.nonce = w.nonce ∧ w'.code = w.code ∧
    w'.slot = w.slot := by
  rw [credit, Option.ite_none_right_eq_some] at h
  obtain ⟨-, h⟩ := h
  cases h
  refine ⟨funext fun b => ?_, rfl, rfl, rfl⟩
  by_cases hb : b = a
  · subst hb
    simp
  · simp [hb]

/-- The world after a transfer next to the world before. -/
structure Moved (c : Context) (t : Transfer) (w w' : World) : Prop where
  covered : c.baseFee.toNat ≤ t.gasPrice.toNat
  counted : w.nonce t.sender = t.nonce.toNat
  /-- What the sender pays is what the others get and what the gas costs. -/
  balance : w'.balance + Pi.single t.sender (t.value.toNat + 21000 * t.gasPrice.toNat) =
    w.balance + Pi.single t.recipient t.value.toNat +
      Pi.single c.coinbase (21000 * (t.gasPrice.toNat - c.baseFee.toNat))
  nonce : w'.nonce = Function.update w.nonce t.sender (t.nonce.toNat + 1)
  code : w'.code = w.code
  slot : w'.slot = w.slot

theorem moved_of_transfer (h : w.transfer c t = some w') : Moved c t w w' := by
  rw [transfer, Option.ite_none_right_eq_some] at h
  obtain ⟨⟨-, hcovered⟩, hmoves⟩ := h
  obtain ⟨w₁, hdebit, hmoves⟩ := Option.bind_eq_some_iff.mp hmoves
  obtain ⟨w₂, hvalue, htip⟩ := Option.bind_eq_some_iff.mp hmoves
  obtain ⟨hcounted, hpaid, hnonce₁, hcode₁, hslot₁⟩ := debit_eq_some hdebit
  obtain ⟨hreceived, hnonce₂, hcode₂, hslot₂⟩ := credit_eq_some hvalue
  obtain ⟨htipped, hnonce₃, hcode₃, hslot₃⟩ := credit_eq_some htip
  refine ⟨hcovered, hcounted, ?balance, ?nonce, ?code, ?slot⟩
  case balance =>
    rw [htipped, hreceived, ← hpaid, add_right_comm (w₁.balance + _), add_right_comm w₁.balance]
  case nonce => rw [hnonce₃, hnonce₂, hnonce₁]
  case code => rw [hcode₃, hcode₂, hcode₁]
  case slot => rw [hslot₃, hslot₂, hslot₁]

theorem Moved.balance_ne (h : Moved c t w w') (hsender : a ≠ t.sender)
    (hrecipient : a ≠ t.recipient) (hcoinbase : a ≠ c.coinbase) : w'.balance a = w.balance a := by
  have hbalance := congrFun h.balance a
  simpa [hsender, hrecipient, hcoinbase] using hbalance

theorem sum_add_single {s : Finset Address} (h : a ∈ s) (f : Address → Nat) (n : Nat) :
    ∑ b ∈ s, (f + Pi.single a n : Address → Nat) b = ∑ b ∈ s, f b + n := by
  simp only [Pi.add_apply, Finset.sum_add_distrib, Finset.sum_pi_single', h, if_true]

/-- Among any addresses that hold all three parties, the base fee is what is lost. -/
theorem Moved.sum (h : Moved c t w w') {s : Finset Address} (hsender : t.sender ∈ s)
    (hrecipient : t.recipient ∈ s) (hcoinbase : c.coinbase ∈ s) :
    ∑ a ∈ s, w'.balance a + 21000 * c.baseFee.toNat = ∑ a ∈ s, w.balance a := by
  have hcovered := h.covered
  have hsum := congrArg (fun balance : Address → Nat => ∑ a ∈ s, balance a) h.balance
  simp only [sum_add_single hsender, sum_add_single hrecipient, sum_add_single hcoinbase] at hsum
  omega

end World

/-! ### Ledgers -/

namespace Ledger

variable {l l' : Ledger}

/-- The addresses that have an entry. -/
def addresses (l : Ledger) : Finset Address := (l.entries.map Prod.fst).toFinset

/-- The sum of all balances. -/
def total (l : Ledger) : Nat := ∑ a ∈ l.addresses, (l.entry a).balance.toNat

/-- An address without an entry has no balance. -/
theorem total_eq_sum {s : Finset Address} (h : l.addresses ⊆ s) :
    l.total = ∑ a ∈ s, l.world.balance a := by
  refine Finset.sum_subset h fun a _ ha => ?_
  have hget : l.entries.get? a = none := Table.get?_eq_none (by simpa [addresses] using ha)
  rw [entry, hget]
  rfl

theorem total_eq_sum_entries (distinct : (l.entries.map Prod.fst).Nodup) :
    l.total = (l.entries.map fun e => e.2.balance.toNat).sum := by
  rw [total, addresses, List.sum_toFinset _ distinct, List.map_map]
  congr 1
  refine List.map_congr_left fun e he => ?_
  rw [Function.comp_apply, entry, Table.get?_of_mem distinct he]
  rfl

/-- A submission that goes through is a transfer of what the encoding says. -/
theorem moved_of_submit {crypto : Crypto} {encoded : Bytes}
    (h : submit crypto encoded l = (.ok (), l')) : ∃ t, Transfer.decode crypto encoded = .ok t ∧
      World.Moved l.context t l.world l'.world ∧ l'.context = l.context := by
  obtain ⟨w, hw, hworld, hcontext⟩ := (follows_submit l crypto encoded).of_ok h
  unfold World.submit at hw
  split at hw
  next t ht =>
    rw [hworld]
    exact ⟨t, ht, World.moved_of_transfer hw, hcontext⟩
  next => cases hw

theorem total_of_moved {t : Transfer} (h : World.Moved l.context t l.world l'.world) :
    l'.total + 21000 * l.baseFee.toNat = l.total := by
  let parties : Finset Address := {t.sender, t.recipient, l.coinbase}
  have hbefore : l.addresses ⊆ l.addresses ∪ l'.addresses ∪ parties := by
    rw [Finset.union_assoc]
    exact Finset.subset_union_left
  have hafter : l'.addresses ⊆ l.addresses ∪ l'.addresses ∪ parties :=
    Finset.subset_union_right.trans Finset.subset_union_left
  have hparties {a : Address} (ha : a ∈ parties) : a ∈ l.addresses ∪ l'.addresses ∪ parties :=
    Finset.mem_union_right _ ha
  rw [total_eq_sum hbefore, total_eq_sum hafter]
  exact h.sum (hparties (by simp [parties])) (hparties (by simp [parties]))
    (hparties (by simp [parties, context]))

end Ledger

end VectorReplay
