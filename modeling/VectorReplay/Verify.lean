import VectorReplay.Account.Basic
import VectorReplay.Checksum
import VectorReplay.Node

/-!
Verifying a post-state: every account that is not on the skip list is compared field by field, up to
the first deviation.
-/
namespace VectorReplay

/-- Addresses that a verification leaves out. -/
structure SkipList where
  addresses : List Address
deriving DecidableEq

namespace SkipList

def contains (l : SkipList) (a : Address) : Bool :=
  l.addresses.contains a

/-- An address is listed once. -/
def push (l : SkipList) (a : Address) : SkipList :=
  if l.contains a then l else ⟨l.addresses ++ [a]⟩

/-- The contract that holds the beacon block roots. -/
def beaconRoots : Address :=
  FixedBytes.ofNat 20 0x000f3df6d732807ef1319fb7b8bb8522d0beac02

/-- The beacon roots contract changes outside of transactions. -/
def standard : SkipList := ⟨[beaconRoots]⟩

end SkipList

namespace Verify

variable {σ : Type}

/-- Fails unless the two values agree. -/
def compare {α : Type} [DecidableEq α] (crypto : Crypto) (address : Address) (field : StateField)
    (text : α → String) (expected actual : α) : Stage σ Unit :=
  if actual = expected then pure ()
  else Stage.fail (.mismatch {
    address := Checksum.text crypto.hash address
    field
    expected := text expected
    actual := text actual })

/-- Compares one account: balance, nonce, code, and the expected storage by ascending key. -/
def account (crypto : Crypto) (node : Node σ) (address : Address) (expected : Account) :
    Stage σ Unit := do
  let balance ← Stage.perform node (.balance address)
  compare crypto address .balance Word.decimal expected.balance balance
  let nonce ← Stage.perform node (.transactionCount address)
  compare crypto address .nonce Word.decimal expected.nonce nonce
  let code ← Stage.perform node (.code address)
  compare crypto address .code Hex.marked expected.code code
  expected.storage.entries.forM fun (key, value) => do
    let actual ← Stage.perform node (.storage address (Word.toHash key))
    compare crypto address (.storage key) Word.decimal value (Word.ofHash actual)

/-- Compares the accounts in their order and counts those that were not skipped. The number is taken to
be below two to the 31, where a count of 32 bits with a sign would end. -/
def accounts (crypto : Crypto) (node : Node σ) (skip : SkipList) : Accounts → Stage σ Nat
  | [] => pure 0
  | (address, expected) :: rest => do
    if skip.contains address then
      Stage.report .debug ("Skipped " ++ Checksum.text crypto.hash address)
      accounts crypto node skip rest
    else
      account crypto node address expected
      let n ← accounts crypto node skip rest
      pure (n + 1)

def all (crypto : Crypto) (node : Node σ) (skip : SkipList) (post : Accounts) : Stage σ Unit := do
  let n ← accounts crypto node skip post
  Stage.report .success ("Post state is valid (" ++ toString n ++ " accounts checked)")

end Verify

end VectorReplay
