import VectorReplay.Replay
import VectorReplay.Proofs.Stage

/-!
Replays on any node. A replay is its submissions and polls; all else are reports, which are
collected here in lists.
-/
namespace VectorReplay.Replay

variable {σ : Type} {crypto : Crypto} {node : Node σ}

/-! ### Reports -/

/-- What is reported on a transaction at position `i` that was accepted. -/
def announcement (crypto : Crypto) (i : Nat) (t : Transaction) (accepted : Hash) : List Report :=
  (if accepted ≠ t.hash crypto.hash then
    [⟨.warning, "Transaction " ++ toString (i + 1) ++ " was accepted as " ++
      Hex.marked accepted.bytes ++ ", but its encoding hashes to " ++
      Hex.marked (t.hash crypto.hash).bytes⟩]
  else []) ++
  [⟨.debug, "Submitted " ++ t.kind.label ++ " transaction " ++ toString (i + 1) ++
    " with nonce " ++ t.nonce.decimal ++ ": " ++ Hex.marked accepted.bytes⟩]

/-- What is reported on its receipt. -/
def confirmation (i : Nat) (accepted : Hash) (r : Receipt) : List Report :=
  (r.blockNumber.toList.map fun n =>
    ⟨.debug, "Transaction " ++ toString (i + 1) ++ " confirmed in block " ++ toString n.toNat⟩) ++
  (if r.reverted then
    [⟨.warning, "Transaction " ++ toString (i + 1) ++ " reverted: " ++ Hex.marked accepted.bytes⟩]
  else [])

/-- What is reported at the end of a replay. -/
def summary (declared total : Word) (result : ExecutionResult) : List Report :=
  (if result.allReportGas && total ≠ declared then
    [⟨.warning, "The block header declares " ++ declared.decimal ++
      " gas used, the replay used " ++ total.decimal⟩]
  else []) ++
  [⟨.info, toString result.receipts.length ++ " transactions replayed, " ++
    total.decimal ++ " gas used"⟩]

theorem transaction_eq (crypto : Crypto) (node : Node σ) (patience i : Nat) (t : Transaction) :
    transaction crypto node patience i t = (do
      let accepted : Hash ← Stage.perform node (.submit t.encoded)
      Stage.tell (announcement crypto i t accepted)
      let r ← awaitReceipt node accepted patience
      Stage.tell (confirmation i accepted r)
      pure r) := by
  unfold transaction announcement confirmation
  simp only [Stage.report_eq_tell, ← Stage.tell_append, Stage.tell_if]
  refine bind_congr fun accepted => ?_
  split
  case' isTrue => refine bind_congr fun _ => ?_
  all_goals
    refine bind_congr fun _ => bind_congr fun r => ?_
    cases r.blockNumber with
    | some n => rfl
    | none => rw [Option.toList_none, List.map_nil, Stage.tell_nil, pure_bind]

theorem conclude_eq (declared : Word) (result : ExecutionResult) :
    (conclude declared result : Stage σ Unit) =
      match result.gasUsed with
      | none => Stage.abort
      | some total => Stage.tell (summary declared total result) := by
  unfold conclude summary
  cases result.gasUsed with
  | none => rfl
  | some total =>
    have hpure (m : Stage σ Unit) : (m >>= fun _ => pure ()) = m := bind_pure_unit
    dsimp only
    rw [← hpure (Stage.tell _), ← Stage.tell_append, Stage.tell_if, hpure]
    rfl

/-! ### Patience -/

theorem patient_awaitReceipt (node : Node σ) (h : Hash) :
    Stage.Patient fun n => awaitReceipt node h n := by
  intro k
  induction k with
  | zero =>
    intro n _ run hstall
    exact absurd rfl hstall
  | succ k ih =>
    intro n hkn run hstall
    obtain ⟨n, rfl⟩ : ∃ m, n = m + 1 := ⟨n - 1, by omega⟩
    dsimp only [awaitReceipt] at hstall ⊢
    obtain ⟨r, run', hr⟩ : ∃ r run', Stage.perform node (.receipt h) run = (r, run') := ⟨_, _, rfl⟩
    match r, hr with
    | .error e, hr => rw [bind_of_error hr, bind_of_error hr]
    | .ok (some x), hr => rw [bind_of_ok hr, bind_of_ok hr]
    | .ok none, hr =>
      rw [bind_of_ok hr] at hstall ⊢
      rw [bind_of_ok hr]
      exact ih n (by omega) run' hstall

theorem patient_transaction (crypto : Crypto) (node : Node σ) (i : Nat) (t : Transaction) :
    Stage.Patient fun n => transaction crypto node n i t := by
  simp only [transaction_eq]
  refine (Stage.patient_const _).bind fun accepted => (Stage.patient_const _).bind fun _ => ?_
  exact (patient_awaitReceipt node accepted).bind fun r => Stage.patient_const _

theorem patient_transactions (crypto : Crypto) (node : Node σ) (i : Nat) (ts : List Transaction) :
    Stage.Patient fun n => transactions crypto node n i ts := by
  induction ts generalizing i with
  | nil => exact Stage.patient_const _
  | cons t ts ih =>
    exact (patient_transaction crypto node i t).bind fun r =>
      (ih (i + 1)).bind fun rs => Stage.patient_const _

theorem patient_block (crypto : Crypto) (node : Node σ) (b : Block) :
    Stage.Patient fun n => block crypto node n b := by
  unfold block
  split
  · exact Stage.patient_const _
  · exact (patient_transactions crypto node 0 b.transactions).bind fun _ => Stage.patient_const _

end VectorReplay.Replay
