import VectorReplay.Block.Basic
import VectorReplay.Crypto
import VectorReplay.Node

/-!
Replaying a block: every transaction is submitted and its receipt awaited before the next one.
-/
namespace VectorReplay.Replay

variable {σ : Type}

/-- Asks for a receipt until it is there, at most `patience` times. -/
def awaitReceipt (node : Node σ) (h : Hash) : (patience : Nat) → Stage σ Receipt
  | 0 => throw .stalled
  | patience + 1 => do
    match ← Stage.perform node (.receipt h) with
    | some r => pure r
    | none => awaitReceipt node h patience

/-- Submits and confirms one transaction; `i` is its position in the block. -/
def transaction (crypto : Crypto) (node : Node σ) (patience : Nat) (i : Nat) (t : Transaction) :
    Stage σ Receipt := do
  let accepted : Hash ← Stage.perform node (.submit t.encoded)
  let place := "Transaction " ++ toString (i + 1)
  if accepted ≠ t.hash crypto.hash then
    Stage.report .warning (place ++ " was accepted as " ++ Hex.marked accepted.bytes ++
      ", but its encoding hashes to " ++ Hex.marked (t.hash crypto.hash).bytes)
  Stage.report .debug ("Submitted " ++ t.kind.label ++ " transaction " ++ toString (i + 1) ++
    " with nonce " ++ t.nonce.decimal ++ ": " ++ Hex.marked accepted.bytes)
  let r ← awaitReceipt node accepted patience
  match r.blockNumber with
  | some n => Stage.report .debug (place ++ " confirmed in block " ++ toString n.toNat)
  | none => pure ()
  if r.reverted then
    Stage.report .warning (place ++ " reverted: " ++ Hex.marked accepted.bytes)
  pure r

/-- The transactions in the order of the block; `i` is the position of the first. -/
def transactions (crypto : Crypto) (node : Node σ) (patience : Nat) :
    (i : Nat) → List Transaction → Stage σ (List Receipt)
  | _, [] => pure []
  | i, t :: ts => do
    let r ← transaction crypto node patience i t
    let rs ← transactions crypto node patience (i + 1) ts
    pure (r :: rs)

/-- Compares the gas with the header, if every receipt reports it. -/
def conclude (declared : Word) (result : ExecutionResult) : Stage σ Unit := do
  match result.gasUsed with
  | none => Stage.abort
  | some total =>
    if result.allReportGas && total ≠ declared then
      Stage.report .warning ("The block header declares " ++ declared.decimal ++
        " gas used, the replay used " ++ total.decimal)
    Stage.report .info (toString result.receipts.length ++ " transactions replayed, " ++
      total.decimal ++ " gas used")

def block (crypto : Crypto) (node : Node σ) (patience : Nat) (b : Block) :
    Stage σ ExecutionResult := do
  if b.transactions.isEmpty then Stage.fail .emptyBlock
  else
    let receipts ← transactions crypto node patience 0 b.transactions
    let result : ExecutionResult := ⟨receipts⟩
    conclude b.header.gasUsed result
    pure result

end VectorReplay.Replay
