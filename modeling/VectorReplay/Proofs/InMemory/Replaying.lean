import VectorReplay.Proofs.InMemory.Calls

/-!
Replaying on the in-memory node: the transactions of a block follow the rule of transfers, one after
the other, and their gas adds up in range.
-/
namespace VectorReplay.InMemory

variable {crypto : Crypto} {p : Nat} {c : Context} {w : World} {run : Run InMemory}

theorem follows_transaction {patience : Nat} (i : Nat) (t : Transaction) (hp : p < patience)
    (h : run.node.Shows p c w) :
    Follows (Replay.transaction crypto (node crypto) patience i t) run (w.submit crypto c t.encoded)
      fun w' r run' => run'.node.Shows p c w' ∧ r.gasUsed = some Transfer.gas := by
  rw [Replay.transaction_eq]
  refine (follows_submit h t.encoded).andThen fun w' accepted run₁ h₁ => ?_
  obtain ⟨hshows, hpolls, hexpects⟩ := h₁
  have hready : run₁.node.remainingPolls < patience := by omega
  rw [follows_step (Stage.tell_apply _ run₁)]
  refine follows_seq (follows_awaitReceipt hshows hready hexpects) fun r run₂ h₂ => ?_
  refine follows_seq (follows_tell h₂.1) fun _ run₃ h₃ => ?_
  exact follows_of_ok rfl ⟨h₃, h₂.2⟩

theorem follows_transactions {patience : Nat} (i : Nat) (ts : List Transaction) (hp : p < patience)
    (h : run.node.Shows p c w) :
    Follows (Replay.transactions crypto (node crypto) patience i ts) run
      (w.replay crypto c (ts.map Transaction.encoded))
      fun w' rs run' => run'.node.Shows p c w' ∧
        rs.filterMap Receipt.gasUsed = List.replicate ts.length Transfer.gas := by
  induction ts generalizing i w run with
  | nil => exact follows_of_ok rfl ⟨h, rfl⟩
  | cons t ts ih =>
    refine (follows_transaction i t hp h).bind fun w₁ r run₁ h₁ => ?_
    refine (ih (i + 1) h₁.1).andThen fun w₂ rs run₂ h₂ => follows_of_ok rfl ⟨h₂.1, ?_⟩
    rw [List.filterMap_cons_some h₁.2, h₂.2]
    rfl

/-- No sum of gas that a block can use leaves the range of words. -/
theorem foldlM_gas {total : Word} {n : Nat} (h : total.toNat + 21000 * n < 2 ^ 256) :
    ∃ sum, (List.replicate n Transfer.gas).foldlM Word.add? total = some sum := by
  induction n generalizing total with
  | zero => exact ⟨total, rfl⟩
  | succ n ih =>
    have hgas : Transfer.gas.toNat = 21000 := rfl
    have hsum : total.toNat + Transfer.gas.toNat < 2 ^ 256 := by omega
    rw [List.replicate_succ, List.foldlM_cons, Word.add?_of_lt hsum]
    apply ih
    rw [BitVec.toNat_add_of_lt hsum]
    omega

theorem follows_replay {patience : Nat} {b : Block} (hlt : b.transactions.length < 2 ^ 64)
    (hp : p < patience) (h : run.node.Shows p c w) :
    Follows (Replay.block crypto (node crypto) patience b) run
      (if b.transactions = [] then none
        else w.replay crypto c (b.transactions.map Transaction.encoded)) (Reaches p c) := by
  unfold Replay.block
  by_cases hempty : b.transactions = []
  · rw [if_pos hempty, if_pos (List.isEmpty_iff.mpr hempty)]
    exact follows_of_error rfl
  · rw [if_neg hempty, if_neg (by simpa using hempty)]
    refine (follows_transactions 0 b.transactions hp h).andThen fun w₁ rs run₁ h₁ => ?_
    obtain ⟨total, htotal⟩ : ∃ total, (ExecutionResult.mk rs).gasUsed = some total := by
      unfold ExecutionResult.gasUsed
      rw [h₁.2]
      exact foldlM_gas (by simp; omega)
    dsimp only
    rw [Replay.conclude_eq, htotal]
    refine follows_seq (follows_tell h₁.1) fun _ run₂ h₂ => ?_
    exact follows_of_ok rfl h₂

end VectorReplay.InMemory
