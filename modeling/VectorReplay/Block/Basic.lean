import VectorReplay.Block.Header
import VectorReplay.Block.Transaction

/-!
Blocks: a list of a header, a transaction list and further items, with nothing after it.
-/
namespace VectorReplay

structure Block where
  header : Header
  transactions : List Transaction
deriving DecidableEq

namespace Block

/-- Decodes the items of a transaction list; `i` is the position of the first. -/
def decodeTransactions (i : Nat) : List Bytes → Except DecodeError (List Transaction)
  | [] => .ok []
  | b :: rest =>
    match Transaction.decode b with
    | .error e => .error (e.inTransaction i)
    | .ok t => do
      let ts ← decodeTransactions (i + 1) rest
      pure (t :: ts)

def decode (b : Bytes) : Except DecodeError Block :=
  if Rlp.isList b then do
    let extent ← liftRlp (Rlp.Extent.read b)
    if extent.total < b.length then
      .error (.schema (.trailingBytes (b.length - extent.total)))
    else
      let items ← listItems "block" b
      match items with
      | header :: transactions :: _ =>
        let header ← Header.decode header
        let items ← listItems "transaction list" transactions
        let transactions ← decodeTransactions 0 items
        pure { header, transactions }
      | _ => .error (.schema .missingParts)
  else .error (.schema (.notList "block"))

/-- Decodes the hexadecimal text of a block, behind `0x`, `0X` or nothing. -/
def ofHex (s : String) : Except DecodeError Block :=
  match Hex.decode (Hex.stripMark s) with
  | .error e => .error (.hex e)
  | .ok b => decode b

/-- The chain id of the first transaction, if it declares one. -/
def chainId (b : Block) : Option UInt64 :=
  b.transactions.head?.bind Transaction.chainId

/-- The later transactions, by position, that declare another chain id than the first. -/
def conflictingChainIds (b : Block) : List (Nat × UInt64) :=
  match b.chainId with
  | none => []
  | some expected =>
    (b.transactions.zipIdx.drop 1).filterMap fun (t, i) =>
      match t.chainId with
      | some c => if c ≠ expected then some (i, c) else none
      | none => none

end Block

end VectorReplay
