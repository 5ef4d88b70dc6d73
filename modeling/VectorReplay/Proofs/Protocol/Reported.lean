import VectorReplay.Proofs.Protocol.Gas
import VectorReplay.Proofs.Protocol.Transcript

/-!
The warnings of a replay that comes to a result. They are a matter of the answers alone: of the hashes
that were accepted, of the receipts, and of the gas that these report.
-/
namespace VectorReplay.Replay

open ExecutionResult (totalGas)

/-! ### What is warned of -/

/-- Transactions are told by their positions in the block. -/
inductive Warning
  | mismatch (i : Nat) (accepted encoding : Hash)
  | reverted (i : Nat) (accepted : Hash)
  | gas (declared : Word) (total : Nat)
deriving DecidableEq

namespace Warning

/-- The position of the transaction that a warning is about, if it is about a single one. -/
def position? : Warning → Option Nat
  | mismatch i .. | reverted i _ => some i
  | gas .. => none

def text : Warning → String
  | mismatch i accepted encoding =>
    "Transaction " ++ toString (i + 1) ++ " was accepted as " ++ Hex.marked accepted.bytes ++
      ", but its encoding hashes to " ++ Hex.marked encoding.bytes
  | reverted i accepted =>
    "Transaction " ++ toString (i + 1) ++ " reverted: " ++ Hex.marked accepted.bytes
  | gas declared total =>
    "The block header declares " ++ declared.decimal ++ " gas used, the replay used " ++
      toString total

def report (w : Warning) : Report :=
  ⟨.warning, w.text⟩

theorem exists_words_append {start s : String} (h : ∃ words, s = start ++ words) (t : String) :
    ∃ words, s ++ t = start ++ words := by
  obtain ⟨words, rfl⟩ := h
  exact ⟨words ++ t, String.append_assoc ..⟩

/-- Transactions are numbered from one. -/
theorem text_of_position {w : Warning} {i : Nat} (h : w.position? = some i) :
    ∃ words, w.text = "Transaction " ++ toString (i + 1) ++ " " ++ words := by
  have hspaced {s words : String} (hs : s = " " ++ words) :
      ∃ words, "Transaction " ++ toString (i + 1) ++ s =
        "Transaction " ++ toString (i + 1) ++ " " ++ words := by
    rw [hs]
    exact ⟨words, (String.append_assoc ..).symm⟩
  cases w with
  | mismatch j accepted encoding =>
    obtain rfl : j = i := Option.some.inj h
    have hstart : " was accepted as " = " " ++ "was accepted as " := by decide
    apply exists_words_append
    apply exists_words_append
    apply exists_words_append
    exact hspaced hstart
  | reverted j accepted =>
    obtain rfl : j = i := Option.some.inj h
    have hstart : " reverted: " = " " ++ "reverted: " := by decide
    apply exists_words_append
    exact hspaced hstart
  | gas => cases h

end Warning

/-- The warnings on a confirmed transaction. -/
def Confirmed.warnings (crypto : Crypto) (i : Nat) (x : Confirmed) : List Warning :=
  (if x.accepted ≠ crypto.hash x.transaction.encoded then
    [.mismatch i x.accepted (crypto.hash x.transaction.encoded)] else []) ++
  if x.receipt.status = some 0 then [.reverted i x.accepted] else []

/-- The warning on the whole block. -/
def gasWarning (declared : Word) (receipts : List Receipt) : List Warning :=
  if (∀ r ∈ receipts, r.gasUsed ≠ none) ∧ totalGas receipts ≠ declared.toNat then
    [.gas declared (totalGas receipts)]
  else []

/-! ### What is reported -/

def warningsOf (rs : List Report) : List Report :=
  rs.filter fun r => r.level = .warning

theorem warningsOf_append (rs rs' : List Report) :
    warningsOf (rs ++ rs') = warningsOf rs ++ warningsOf rs' :=
  List.filter_append rs rs'

variable (crypto : Crypto)

theorem warningsOf_reports (i : Nat) (x : Confirmed) :
    warningsOf (x.reports crypto i) = (x.warnings crypto i).map Warning.report := by
  have hannouncement : warningsOf (announcement crypto i x.transaction x.accepted) =
      (if x.accepted ≠ crypto.hash x.transaction.encoded then
        [Warning.mismatch i x.accepted (crypto.hash x.transaction.encoded)] else []).map
          Warning.report := by
    rw [announcement, Transaction.hash, warningsOf_append]
    split <;> rfl
  have hconfirmation : warningsOf (confirmation i x.accepted x.receipt) =
      (if x.receipt.status = some 0 then [Warning.reverted i x.accepted] else []).map
        Warning.report := by
    have hblock : warningsOf (x.receipt.blockNumber.toList.map fun n =>
        ⟨.debug, "Transaction " ++ toString (i + 1) ++ " confirmed in block " ++
          toString n.toNat⟩) = [] := by
      cases x.receipt.blockNumber <;> rfl
    rw [confirmation, warningsOf_append, hblock, List.nil_append]
    simp only [Receipt.reverted, decide_eq_true_eq]
    split <;> rfl
  rw [Confirmed.reports, warningsOf_append, hannouncement, hconfirmation, Confirmed.warnings,
    List.map_append]

theorem warningsOf_reportsFrom (i : Nat) (xs : List Confirmed) :
    warningsOf (reportsFrom crypto i xs) =
      ((xs.zipIdx i).flatMap fun (x, j) => x.warnings crypto j).map Warning.report := by
  induction xs generalizing i with
  | nil => rfl
  | cons x xs ih =>
    rw [reportsFrom, warningsOf_append, warningsOf_reports, ih, List.zipIdx_cons,
      List.flatMap_cons, List.map_append]

/-- The exact sum stands in for the word that was computed. -/
theorem warningsOf_summary {declared total : Word} {result : ExecutionResult}
    (summed : result.gasUsed = some total) :
    warningsOf (summary declared total result) =
      (gasWarning declared result.receipts).map Warning.report := by
  have htotal := ExecutionResult.gasUsed_eq_some_iff.mp summed
  have hiff : (result.allReportGas && total ≠ declared) = true ↔
      (∀ r ∈ result.receipts, r.gasUsed ≠ none) ∧
        totalGas result.receipts ≠ declared.toNat := by
    simp only [ExecutionResult.allReportGas, Bool.and_eq_true, List.all_eq_true,
      Option.isSome_iff_ne_none, decide_eq_true_eq, ← htotal, ne_eq, BitVec.toNat_inj]
  have hdecimal : total.decimal = toString (totalGas result.receipts) := congrArg toString htotal
  rw [summary, gasWarning, warningsOf_append, hdecimal]
  simp only [hiff]
  split <;> rfl

/-- What is known of a replay by its warnings. The confirmed transactions are those of the block, with
the answers that the node gave. -/
structure Warned {σ : Type} (b : Block) (result : ExecutionResult) (run : Run σ)
    (xs : List Confirmed) : Prop where
  transactions : b.transactions = xs.map Confirmed.transaction
  exchanges : run.exchanges = xs.flatMap Confirmed.exchanges
  receipts : result.receipts = xs.map Confirmed.receipt
  warnings : warningsOf run.reports =
    ((xs.zipIdx.flatMap fun (x, i) => x.warnings crypto i) ++
      gasWarning b.header.gasUsed result.receipts).map Warning.report
  numbered : ∀ i x, (x, i) ∈ xs.zipIdx → ∀ w ∈ x.warnings crypto i,
    ∃ words, w.report.text = "Transaction " ++ toString (i + 1) ++ " " ++ words

theorem Confirmed.position_of_mem_warnings {crypto : Crypto} {i : Nat} {x : Confirmed} {w : Warning}
    (h : w ∈ x.warnings crypto i) : w.position? = some i := by
  unfold Confirmed.warnings at h
  obtain h | h := List.mem_append.mp h
  all_goals
    split at h
    · rw [List.mem_singleton.mp h]
      rfl
    · cases h

/-- A replay with a result has warned of every transaction that was accepted under another hash than
that of its encoding, then of its receipt if that has status zero, transaction by transaction; last of
the gas, if all receipts report theirs and its exact sum is not that of the header. There are no other
warnings. -/
theorem block_warned {σ : Type} {crypto : Crypto} {node : Node σ} {patience : Nat} {b : Block}
    {s : σ} {result : ExecutionResult} {run : Run σ}
    (ok : block crypto node patience b (Run.start s) = (.ok result, run)) :
    ∃ xs, Warned crypto b result run xs := by
  obtain ⟨es, rs, hes, hrs, xs, total, rs', transcript, hgas, rfl⟩ :=
    whenOk_block crypto node patience b _ result run ok
  rw [Run.start, List.nil_append] at hes hrs
  refine ⟨xs, transcript.transactions, hes.trans transcript.exchanges, transcript.receipts, ?_,
    fun i x _ w hw => Warning.text_of_position (Confirmed.position_of_mem_warnings hw)⟩
  rw [hrs, warningsOf_append, transcript.reports, warningsOf_reportsFrom, warningsOf_summary hgas,
    List.map_append]

/-- A node that accepts every transaction under the same hash. Its receipts tell of a failure and of
gas. -/
def doubtful : Node Unit where
  answer
    | .submit _, s => (.ok (FixedBytes.ofNat 32 1), s)
    | .receipt h, s => (.ok (some ⟨h, none, some 21000, some 0⟩), s)
    | c, s => Undeclared.obliging.answer c s

/-- Two warnings on each transaction, and one on the gas of both. -/
theorem block_warned_doubtful :
    ∃ (result : ExecutionResult) (run : Run Unit) (xs : List Confirmed),
      block Payment.crypto doubtful 1 (Undeclared.block [27, 37]) (Run.start ()) = (.ok result, run) ∧
      Warned Payment.crypto (Undeclared.block [27, 37]) result run xs ∧
      xs.length = 2 ∧ (warningsOf run.reports).length = 5 := by
  obtain ⟨hsome, hwarnings⟩ :
      (block Payment.crypto doubtful 1 (Undeclared.block [27, 37]) (Run.start ())).1.toOption.isSome ∧
      (warningsOf (block Payment.crypto doubtful 1 (Undeclared.block [27, 37])
        (Run.start ())).2.reports).length = 5 := by
    decide +kernel
  obtain ⟨result, hresult⟩ := Option.isSome_iff_exists.mp hsome
  have ok := eq_of_toOption hresult
  obtain ⟨xs, hwarned⟩ := block_warned ok
  have hlength := congrArg List.length hwarned.transactions
  rw [List.length_map] at hlength
  exact ⟨result, _, xs, ok, hwarned, hlength.symm, hwarnings⟩

end VectorReplay.Replay
