import VectorReplay.Block.Fields

/-!
Signed transactions. A legacy transaction is a list; its chain id is derived from `v`. A typed one is
a string: the type byte and a list.
-/
namespace VectorReplay

structure Transaction where
  kind : Kind
  /-- The declared chain id; the oldest legacy signatures declare none. -/
  chainId : Option UInt64
  nonce : Word
  /-- What is submitted to a node. -/
  encoded : Bytes
deriving DecidableEq

namespace Transaction

/-- The chain id that a legacy `v` declares. -/
def chainIdOfV (v : Word) : Except DecodeError (Option UInt64) :=
  if v.toNat = 27 ∨ v.toNat = 28 then .ok none
  else if 35 ≤ v.toNat then
    let c := (v.toNat - 35) / 2
    if UInt64.size ≤ c then .error (.schema .chainIdWidth) else .ok (some (UInt64.ofNat c))
  else .error (.schema (.signatureV v.toNat))

/-- The items of a transaction list, in the number that its kind has. -/
def fields (kind : Kind) (b : Bytes) : Except DecodeError (List Bytes) := do
  let items ← Block.listItems "transaction" b
  if items.length = kind.fieldCount then .ok items
  else .error (.schema (.transactionFields kind items.length))

def decodeLegacy (b : Bytes) : Except DecodeError Transaction := do
  let items ← fields .legacy b
  let v ← Block.wordAt items 6 "v"
  let chainId ← chainIdOfV v
  let nonce ← Block.wordAt items 0 "nonce"
  pure { kind := .legacy, chainId, nonce, encoded := b }

def decodeTyped (envelope : Bytes) : Except DecodeError Transaction :=
  match envelope with
  | [] => .error (.schema .emptyEnvelope)
  | byte :: body =>
    match Kind.ofByte? byte with
    | none => .error (.schema (.unknownType byte))
    | some kind =>
      if Rlp.isList body then do
        let extent ← Block.liftRlp (Rlp.Extent.read body)
        if extent.total ≠ body.length then .error (.schema (.payloadLength kind))
        else
          let items ← fields kind body
          let chainId ← Block.uint64At items 0 "chainId"
          let nonce ← Block.wordAt items 1 "nonce"
          pure { kind, chainId := some chainId, nonce, encoded := envelope }
      else .error (.schema (.payloadNotList kind))

/-- Decodes a raw item of a transaction list. -/
def decode (b : Bytes) : Except DecodeError Transaction :=
  if Rlp.isList b then decodeLegacy b
  else do
    let envelope ← Block.liftRlp (Rlp.payload b)
    decodeTyped envelope

/-- The hash of the submitted bytes. -/
def hash (h : Bytes → Hash) (t : Transaction) : Hash :=
  h t.encoded

end Transaction

end VectorReplay
