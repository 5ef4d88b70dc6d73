import VectorReplay.Json.HexText
import VectorReplay.Json.Record

/-!
Transaction receipts and the outcome of a replay.
-/
namespace VectorReplay

open Json

structure Receipt where
  transaction : Hash
  blockNumber : Option UInt64
  gasUsed : Option Word
  status : Option UInt64
deriving DecidableEq

namespace Receipt

/-- A status of zero tells that the transaction was undone. -/
def reverted (r : Receipt) : Bool :=
  r.status = some 0

/-- The parts of a receipt that were met so far. -/
structure Draft where
  transaction : Option Hash := none
  blockNumber : Option (Option UInt64) := none
  gasUsed : Option (Option Word) := none
  status : Option (Option UInt64) := none

def record : Record Draft Receipt where
  title := "Receipt"
  fields := [
    .of "transactionHash" false Draft.transaction (fun a d => { d with transaction := some a })
      (HexText.fixed 32),
    .of "blockNumber" false Draft.blockNumber (fun a d => { d with blockNumber := some a })
      (Decoder.nullable HexText.quantity64),
    .of "gasUsed" false Draft.gasUsed (fun a d => { d with gasUsed := some a })
      (Decoder.nullable HexText.quantity),
    .of "status" false Draft.status (fun a d => { d with status := some a })
      (Decoder.nullable HexText.quantity64)]
  blank := {}
  build d := do
    let transaction ← required "transactionHash" d.transaction
    pure {
      transaction
      blockNumber := d.blockNumber.join
      gasUsed := d.gasUsed.join
      status := d.status.join }

def decoder : Decoder Receipt := record.decoder

def decode (text : String) : Except Json.Error Receipt :=
  decoder.decode text

end Receipt

/-- The receipts of a replayed block, in the order of its transactions. -/
structure ExecutionResult where
  receipts : List Receipt
deriving DecidableEq

namespace ExecutionResult

def hashes (r : ExecutionResult) : List Hash :=
  r.receipts.map Receipt.transaction

/-- The sum of the gas that receipts report; nothing when it leaves the range of words. -/
def gasUsed (r : ExecutionResult) : Option Word :=
  (r.receipts.filterMap Receipt.gasUsed).foldlM Word.add? 0

def allReportGas (r : ExecutionResult) : Bool :=
  r.receipts.all fun x => x.gasUsed.isSome

end ExecutionResult

end VectorReplay
