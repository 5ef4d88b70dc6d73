import VectorReplay.Account.Basic

/-!
Ledgers: accounts with their storage, and the context of the block that is being filled. An address
without an entry has no balance, nonce, code or storage.
-/
namespace VectorReplay

namespace Ledger

structure Entry where
  balance : Word
  nonce : Word
  code : Bytes
  storage : Table Hash Hash
deriving DecidableEq

def Entry.empty : Entry := ⟨0, 0, [], []⟩

/-- The value of a storage slot; a slot never written is zero. -/
def Entry.slot (e : Entry) (key : Hash) : Hash :=
  (e.storage.get? key).getD (FixedBytes.zero 32)

end Ledger

structure Ledger where
  entries : Table Address Ledger.Entry
  chainId : Option UInt64
  coinbase : Address
  baseFee : Word
  gasLimit : Word
deriving DecidableEq

namespace Ledger

def empty : Ledger where
  entries := []
  chainId := none
  coinbase := FixedBytes.zero 20
  baseFee := 0
  gasLimit := 0

def entry (l : Ledger) (a : Address) : Entry :=
  (l.entries.get? a).getD .empty

/-- Changes an entry, which is created if need be. -/
def update (l : Ledger) (a : Address) (f : Entry → Entry) : Ledger :=
  { l with entries := l.entries.set a (f (l.entry a)) }

@[simp] theorem entry_update_self (l : Ledger) (a : Address) (f : Entry → Entry) :
    (l.update a f).entry a = f (l.entry a) := by
  simp [update, entry]

theorem entry_update_ne (l : Ledger) {a b : Address} (f : Entry → Entry) (h : a ≠ b) :
    (l.update a f).entry b = l.entry b := by
  simp [update, entry, Table.get?_set_ne _ _ h]

end Ledger

end VectorReplay
