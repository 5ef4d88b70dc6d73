import VectorReplay.Seed
import VectorReplay.Proofs.Stage

/-!
Seeding on any node, call by call.
-/
namespace VectorReplay.Seed

variable {σ : Type}

def baseFee (node : Node σ) (fee : Option Word) : Stage σ Unit :=
  match fee with
  | none => pure ()
  | some fee => Stage.perform node (.setNextBaseFee fee)

/-- What is reported on the context of a block. -/
def contextReport (crypto : Crypto) (b : Block) : Report :=
  ⟨.debug, "Seeded the context of block " ++ b.header.number.decimal ++
    " (coinbase " ++ Checksum.text crypto.hash b.header.coinbase ++
    ", base fee " ++ (b.header.baseFee.elim "none" Word.decimal) ++
    ", gas limit " ++ b.header.gasLimit.decimal ++ ")"⟩

theorem block_eq (crypto : Crypto) (node : Node σ) (b : Block) :
    block crypto node b = (do
      chainId node b
      Stage.perform node (.setCoinbase b.header.coinbase)
      baseFee node b.header.baseFee
      Stage.perform node (.setGasLimit b.header.gasLimit)
      Stage.tell [contextReport crypto b]) := by
  unfold block baseFee contextReport
  simp only [Stage.report_eq_tell]
  refine bind_congr fun _ => bind_congr fun _ => ?_
  cases b.header.baseFee with
  | none => rw [pure_bind]
  | some fee => rfl

end VectorReplay.Seed
