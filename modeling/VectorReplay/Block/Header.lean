import VectorReplay.Block.Fields
import VectorReplay.Hardfork

/-!
The header fields that a replay depends on. The base fee is the sixteenth field; older headers have
none.
-/
namespace VectorReplay

structure Header where
  coinbase : Address
  number : Word
  gasLimit : Word
  gasUsed : Word
  timestamp : UInt64
  baseFee : Option Word
  hardfork : Hardfork
deriving DecidableEq

namespace Header

def minFields : Nat := 15

/-- Reads the fields of a header that was split already; the base fee is looked at first. -/
def ofFields (fields : List Bytes) : Except DecodeError Header :=
  if fields.length < minFields then .error (.schema (.headerFields fields.length))
  else do
    let baseFee ←
      if 15 < fields.length then some <$> Block.wordAt fields 15 "baseFeePerGas" else pure none
    let coinbase ← Block.addressAt fields 2 "coinbase"
    let number ← Block.wordAt fields 8 "number"
    let gasLimit ← Block.wordAt fields 9 "gasLimit"
    let gasUsed ← Block.wordAt fields 10 "gasUsed"
    let timestamp ← Block.uint64At fields 11 "timestamp"
    pure {
      coinbase, number, gasLimit, gasUsed, timestamp, baseFee
      hardfork := Hardfork.ofFieldCount fields.length }

def decode (b : Bytes) : Except DecodeError Header := do
  let fields ← Block.listItems "header" b
  ofFields fields

end Header

end VectorReplay
