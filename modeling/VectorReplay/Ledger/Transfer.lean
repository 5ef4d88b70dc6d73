import VectorReplay.Crypto
import VectorReplay.Ledger.Basic
import VectorReplay.Rlp.Encode
import VectorReplay.Rlp.Reader

/-!
Signed transfers on a ledger. The fields of the encoding are read by position; their signer is
recovered from the first six and the chain id. What is charged is a flat amount of gas; of its price,
the part above the base fee goes to the coinbase.
-/
namespace VectorReplay

namespace Ledger

/-- Why a submission is refused. -/
inductive Refusal
  | encoding (e : Rlp.Error)
  | signature
  | chainId
  | nonce (current given : Word)
  | funds
deriving DecidableEq

def Refusal.message : Refusal → String
  | .encoding e => e.name
  | .signature => "InvalidSignature"
  | .chainId => "invalid chain id"
  | .nonce current given => "nonce too low: " ++ current.decimal ++ " != " ++ given.decimal
  | .funds => "insufficient funds"

inductive Stop
  | refused (r : Refusal)
  /-- A number is out of range or a field has an impossible length. -/
  | aborted
deriving DecidableEq

end Ledger

/-- A legacy transfer: what its fields say and who signed it. -/
structure Transfer where
  nonce : Word
  gasPrice : Word
  recipient : Address
  value : Word
  chainId : UInt64
  sender : Address
deriving DecidableEq

namespace Transfer

open Ledger (Stop Refusal)

/-- Reading an encoding from left to right, with the place of the last item in mind. -/
abbrev Reading (α : Type) := ExceptT Stop (StateM Rlp.Reader) α

def raw (i : Nat) : Reading Bytes := fun r =>
  let (b, r) := r.item i
  (b.mapError fun e => .refused (.encoding e), r)

def string (i : Nat) : Reading Bytes := fun r =>
  let (b, r) := r.string i
  (b.mapError fun e => .refused (.encoding e), r)

/-- A word; a longer string has no value. -/
def word (i : Nat) : Reading Word := do
  let b ← string i
  if 32 < b.length then throw .aborted else pure (Word.ofBytes b)

def address (i : Nat) : Reading Address := do
  let b ← string i
  match FixedBytes.ofBytes? 20 b with
  | some a => pure a
  | none => throw .aborted

/-- The chain id behind the low 64 bits of a `v`, and the parity that is left. -/
def splitV (v : UInt64) : Option (UInt64 × Bool) :=
  if v < 35 then none
  else
    let c := (v - 35) / 2
    some (c, v - 35 - c * 2 = 1)

/-- The 64 bytes of a signature: `r` before `s`, each filled up in front. An `s` that is too long
covers the end of `r`. -/
def signature (r s : Bytes) : Option Bytes :=
  if 32 < r.length ∨ 64 < s.length then none
  else
    let left := List.replicate (32 - r.length) 0 ++ r ++ List.replicate 32 0
    some (left.take (64 - s.length) ++ s)

/-- What is signed: the first six items, the chain id, and two empty strings. -/
def message (hash : Bytes → Hash) (items : List Bytes) (chainId : UInt64) : Hash :=
  hash (Rlp.encodeList (items ++ [Rlp.encodeNat chainId.toNat, [0x80], [0x80]]))

def read (crypto : Crypto) : Reading Transfer := do
  let nonce ← word 0
  let gasPrice ← word 1
  let recipient ← address 3
  let value ← word 4
  let v ← word 6
  match splitV v.low64 with
  | none => throw .aborted
  | some (chainId, odd) =>
    let items ← (List.range 6).mapM raw
    let r ← string 7
    let s ← string 8
    match signature r s with
    | none => throw .aborted
    | some sig =>
      match crypto.recover (message crypto.hash items chainId) sig odd with
      | none => throw (.refused .signature)
      | some sender => pure { nonce, gasPrice, recipient, value, chainId, sender }

def decode (crypto : Crypto) (encoded : Bytes) : Except Stop Transfer :=
  (read crypto (Rlp.Reader.ofBytes encoded)).1

/-- The gas that every transfer uses. -/
def gas : Word := 21000

end Transfer

namespace Ledger

/-- Work on a ledger; a stop keeps what was written before. -/
abbrev Change (α : Type) := ExceptT Stop (StateM Ledger) α

/-- A number that must be in range. -/
def checked {α : Type} : Option α → Change α
  | some a => pure a
  | none => throw .aborted

/-- Adds to a balance; the entry is created before the sum is checked. -/
def credit (a : Address) (amount : Word) : Change Unit := do
  modify fun l => l.update a id
  let l ← get
  let balance ← checked (Word.add? (l.entry a).balance amount)
  set (l.update a fun e => { e with balance })

/-- Takes the amount and the fee from the sender and counts its nonce up. -/
def debit (t : Transfer) (fee : Word) : Change Unit := do
  modify fun l => l.update t.sender id
  let sender := (← get).entry t.sender
  if sender.nonce ≠ t.nonce then throw (.refused (.nonce sender.nonce t.nonce))
  let cost ← checked (Word.add? t.value fee)
  if sender.balance.toNat < cost.toNat then throw (.refused .funds)
  modify fun l => l.update t.sender fun e => { e with balance := e.balance - cost }
  let nonce ← checked (Word.add? sender.nonce 1)
  modify fun l => l.update t.sender fun e => { e with nonce }

/-- Executes a transfer in the context of the block. -/
def transfer (t : Transfer) : Change Unit := do
  let l ← get
  if l.chainId.any (· ≠ t.chainId) then throw (.refused .chainId)
  let fee ← checked (Word.mul? Transfer.gas t.gasPrice)
  let margin ← checked (Word.sub? t.gasPrice l.baseFee)
  let tip ← checked (Word.mul? Transfer.gas margin)
  debit t fee
  credit t.recipient t.value
  credit l.coinbase tip

/-- Decodes and executes an encoded transfer. -/
def submit (crypto : Crypto) (encoded : Bytes) : Change Unit := do
  match Transfer.decode crypto encoded with
  | .error e => throw e
  | .ok t => transfer t

end Ledger

end VectorReplay
