import VectorReplay.Account.Basic
import VectorReplay.Block.Basic
import VectorReplay.Checksum
import VectorReplay.Node

/-!
Seeding: writing the accounts of a pre-state and the context of a block into a node.
-/
namespace VectorReplay.Seed

variable {σ : Type}

/-- Writes one account: code, balance, nonce, and storage by ascending key. -/
def account (crypto : Crypto) (node : Node σ) (address : Address) (a : Account) : Stage σ Unit := do
  Stage.perform node (.setCode address a.code)
  Stage.perform node (.setBalance address a.balance)
  Stage.perform node (.setNonce address a.nonce)
  a.storage.entries.forM fun (key, value) =>
    Stage.perform node (.setStorage address (Word.toHash key) (Word.toHash value))
  Stage.report .debug ("Seeded " ++ Checksum.text crypto.hash address ++
    " (balance " ++ a.balance.decimal ++ ", nonce " ++ a.nonce.decimal ++
    ", " ++ toString a.code.length ++ " code bytes, " ++ toString a.storage.size ++
    " storage slots)")

def accounts (crypto : Crypto) (node : Node σ) (pre : Accounts) : Stage σ Unit :=
  pre.forM fun (address, a) => account crypto node address a

/-- Sets the chain id, if the block has one, and warns of transactions that declare another. -/
def chainId (node : Node σ) (b : Block) : Stage σ Unit := do
  match b.chainId with
  | none => pure ()
  | some c =>
    Stage.perform node (.setChainId c)
    b.conflictingChainIds.forM fun (i, other) =>
      Stage.report .warning ("Transaction " ++ toString (i + 1) ++ " declares chain id " ++
        toString other.toNat ++ ", but the block is replayed with chain id " ++ toString c.toNat)

/-- The context of a block; only headers with a base fee set one. -/
def block (crypto : Crypto) (node : Node σ) (b : Block) : Stage σ Unit := do
  chainId node b
  Stage.perform node (.setCoinbase b.header.coinbase)
  match b.header.baseFee with
  | none => pure ()
  | some fee => Stage.perform node (.setNextBaseFee fee)
  Stage.perform node (.setGasLimit b.header.gasLimit)
  Stage.report .debug ("Seeded the context of block " ++ b.header.number.decimal ++
    " (coinbase " ++ Checksum.text crypto.hash b.header.coinbase ++
    ", base fee " ++ (b.header.baseFee.elim "none" Word.decimal) ++
    ", gas limit " ++ b.header.gasLimit.decimal ++ ")")

def all (crypto : Crypto) (node : Node σ) (pre : Accounts) (b : Block) : Stage σ Unit := do
  accounts crypto node pre
  block crypto node b
  Stage.report .info ("Pre-state of " ++ toString pre.length ++ " accounts seeded")

end VectorReplay.Seed
