import VectorReplay.Block.Basic
import VectorReplay.Ledger.Transfer
import VectorReplay.Proofs.Bytes
import Mathlib.Logic.Function.Basic

/-!
What a ledger stands for: a balance, a nonce, a code and storage for every address. The rule of
transfers is stated here on unbounded numbers, with the bounds of words as conditions.
-/
namespace VectorReplay

/-- The context of the block that is being filled. -/
structure Context where
  chainId : Option UInt64
  coinbase : Address
  baseFee : Word
  gasLimit : Word

/-- Headers without a base fee count as one of zero. -/
def Context.ofBlock (b : Block) : Context where
  chainId := b.chainId
  coinbase := b.header.coinbase
  baseFee := b.header.baseFee.getD 0
  gasLimit := b.header.gasLimit

@[ext] structure World where
  balance : Address → Nat
  nonce : Address → Nat
  code : Address → Bytes
  slot : Address → Word → Word

/-! ### Tables on top of functions -/

namespace Table

variable {α β γ : Type} [DecidableEq α]

/-- Where a table has an entry, what the entry makes of a value. -/
def overlay (t : Table α β) (g : β → γ → γ) (f : α → γ) : α → γ := fun a =>
  match t.get? a with
  | some x => g x (f a)
  | none => f a

theorem overlay_singleton (a : α) (x : β) (g : β → γ → γ) (f : α → γ) :
    overlay [(a, x)] g f = Function.update f a (g x (f a)) := by
  funext b
  rw [Function.update_apply]
  by_cases h : b = a
  · simp [overlay, get?, h]
  · simp [overlay, get?, h, Ne.symm h]

theorem overlay_cons {t : Table α β} {a : α} (h : a ∉ t.map Prod.fst) (x : β) (g : β → γ → γ)
    (f : α → γ) : overlay t g (overlay [(a, x)] g f) = overlay ((a, x) :: t) g f := by
  funext b
  by_cases hb : a = b
  · subst hb
    simp [overlay, get?, get?_eq_none h]
  · simp [overlay, get?, hb]

end Table

namespace World

def empty : World where
  balance _ := 0
  nonce _ := 0
  code _ := []
  slot _ _ := 0

/-- Accounts on top of a world; what they do not name stays. -/
def seed (w : World) (as : Accounts) : World where
  balance := as.overlay (fun x _ => x.balance.toNat) w.balance
  nonce := as.overlay (fun x _ => x.nonce.toNat) w.nonce
  code := as.overlay (fun x _ => x.code) w.code
  slot := as.overlay (fun x old key => (x.storage.get? key).getD (old key)) w.slot

/-- The world that holds these accounts and nothing else. -/
def ofAccounts (as : Accounts) : World :=
  empty.seed as

/-- An account is as a document expects it; slots that it does not name do not count. -/
structure Agrees (w : World) (a : Address) (x : Account) : Prop where
  balance : w.balance a = x.balance.toNat
  nonce : w.nonce a = x.nonce.toNat
  code : w.code a = x.code
  slots : ∀ e ∈ x.storage.entries, w.slot a e.1 = e.2

theorem agrees_iff (w : World) (a : Address) (x : Account) : w.Agrees a x ↔
    w.balance a = x.balance.toNat ∧ w.nonce a = x.nonce.toNat ∧ w.code a = x.code ∧
      ∀ e ∈ x.storage.entries, w.slot a e.1 = e.2 :=
  ⟨fun h => ⟨h.balance, h.nonce, h.code, h.slots⟩, fun h => ⟨h.1, h.2.1, h.2.2.1, h.2.2.2⟩⟩

instance (w : World) (a : Address) (x : Account) : Decidable (w.Agrees a x) :=
  have : Decidable (∀ e ∈ x.storage.entries, w.slot a e.1 = e.2) := List.decidableBAll _ _
  decidable_of_iff _ (agrees_iff w a x).symm

/-! ### Transfers -/

def debit (w : World) (a : Address) (nonce cost : Nat) : Option World :=
  if w.nonce a = nonce ∧ cost ≤ w.balance a ∧ nonce + 1 < 2 ^ 256 then
    some { w with
      balance := Function.update w.balance a (w.balance a - cost)
      nonce := Function.update w.nonce a (nonce + 1) }
  else none

def credit (w : World) (a : Address) (amount : Nat) : Option World :=
  if w.balance a + amount < 2 ^ 256 then
    some { w with balance := Function.update w.balance a (w.balance a + amount) }
  else none

/-- A transfer costs its value and 21000 units of gas. The recipient gets the value, and the
coinbase what is paid for gas above the base fee; the sender, the recipient and the coinbase may
coincide. -/
def transfer (c : Context) (t : Transfer) (w : World) : Option World :=
  if c.chainId.all (· = t.chainId) ∧ c.baseFee.toNat ≤ t.gasPrice.toNat then do
    let w ← w.debit t.sender t.nonce.toNat (t.value.toNat + 21000 * t.gasPrice.toNat)
    let w ← w.credit t.recipient t.value.toNat
    w.credit c.coinbase (21000 * (t.gasPrice.toNat - c.baseFee.toNat))
  else none

def submit (crypto : Crypto) (c : Context) (w : World) (encoded : Bytes) : Option World :=
  match Transfer.decode crypto encoded with
  | .ok t => w.transfer c t
  | .error _ => none

/-- Transfers one after the other, as long as each one goes through. -/
def replay (crypto : Crypto) (c : Context) (w : World) (encodings : List Bytes) : Option World :=
  encodings.foldlM (submit crypto c) w

/-! ### Worlds of accounts -/

/-- Entries on top of the storage of an account. -/
def store (w : World) (a : Address) (es : List (Word × Word)) : World :=
  { w with slot := Function.update w.slot a fun key => (es.lookup key).getD (w.slot a key) }

theorem store_nil (w : World) (a : Address) : w.store a [] = w :=
  World.ext rfl rfl rfl (Function.update_eq_self a w.slot)

theorem store_cons (w : World) (a : Address) {key value : Word} {es : List (Word × Word)}
    (h : ((key, value) :: es).Pairwise fun d e => d.1 < e.1) :
    { w with slot := Function.update w.slot a (Function.update (w.slot a) key value) }.store a es =
      w.store a ((key, value) :: es) := by
  refine World.ext rfl rfl rfl ?_
  simp only [store, Function.update_self, Function.update_idem]
  congr 1
  funext k
  rw [Function.update_apply]
  by_cases hk : k = key
  · have hnone : es.lookup key = none := by
      rw [List.lookup_eq_none_iff]
      intro e he
      have hlt : key < e.1 := (List.pairwise_cons.mp h).1 e he
      simpa using BitVec.ne_of_lt hlt
    simp [hk, hnone]
  · have hlookup : ((key, value) :: es).lookup k = es.lookup k := by
      rw [List.lookup_cons, beq_false_of_ne hk]
    rw [hlookup, if_neg hk]

theorem seed_singleton (w : World) (a : Address) (x : Account) : w.seed [(a, x)] = {
    balance := Function.update w.balance a x.balance.toNat
    nonce := Function.update w.nonce a x.nonce.toNat
    code := Function.update w.code a x.code
    slot := (w.store a x.storage.entries).slot } := by
  simp only [seed, Table.overlay_singleton]
  rfl

theorem seed_cons (w : World) {a : Address} {x : Account} {as : Accounts}
    (h : a ∉ as.map Prod.fst) : (w.seed [(a, x)]).seed as = w.seed ((a, x) :: as) := by
  simp only [seed, Table.overlay_cons h]

end World

end VectorReplay
