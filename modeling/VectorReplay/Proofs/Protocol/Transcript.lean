import VectorReplay.Proofs.Execution
import VectorReplay.Proofs.Protocol.Lockstep
import VectorReplay.Proofs.Protocol.Warnings

/-!
The transcript of a replay that comes to a result: which transactions were confirmed, under which
hashes, and everything that was reported on them. A replay that reports no warning has confirmed
each transaction under its own hash.
-/
namespace VectorReplay

/-! ### Stages that end well -/

namespace Stage

variable {σ α β : Type}

/-- If the stage ends well, `P` holds of its value, its exchanges and its reports. -/
def WhenOk (m : Stage σ α) (P : α → List Exchange → List Report → Prop) : Prop :=
  ∀ run a run', m run = (.ok a, run') → ∃ es rs,
    run'.exchanges = run.exchanges ++ es ∧ run'.reports = run.reports ++ rs ∧ P a es rs

variable {P : α → List Exchange → List Report → Prop} {Q : β → List Exchange → List Report → Prop}

theorem whenOk_pure {a : α} (h : P a [] []) : (pure a : Stage σ α).WhenOk P := by
  rintro run _ _ ⟨⟩
  exact ⟨[], [], (List.append_nil _).symm, (List.append_nil _).symm, h⟩

theorem whenOk_throw (e : Fault) : (throw e : Stage σ α).WhenOk P :=
  nofun

theorem whenOk_tell (reports : List Report) :
    (tell reports : Stage σ Unit).WhenOk fun _ es rs => es = [] ∧ rs = reports := by
  rintro run _ _ ⟨⟩
  exact ⟨[], reports, (List.append_nil _).symm, rfl, rfl, rfl⟩

theorem whenOk_perform (node : Node σ) (c : Call) :
    (perform node c).WhenOk fun reply es rs => es = [⟨c, .ok reply⟩] ∧ rs = [] := by
  intro run reply run' h
  obtain ⟨hreply, rfl⟩ := Prod.mk.inj h
  exact ⟨[⟨c, .ok reply⟩], [], congrArg (fun r => run.exchanges ++ [⟨c, r⟩]) hreply,
    (List.append_nil _).symm, rfl, rfl⟩

theorem WhenOk.bind {m : Stage σ α} {f : α → Stage σ β} (hm : m.WhenOk P)
    (hf : ∀ a es rs, P a es rs → (f a).WhenOk fun b es' rs' => Q b (es ++ es') (rs ++ rs')) :
    (m >>= f).WhenOk Q := by
  intro run b run' h
  rcases hrun : m run with ⟨e | a, run₁⟩
  · rw [bind_of_error hrun] at h
    cases h
  · rw [bind_of_ok hrun] at h
    obtain ⟨es, rs, hes, hrs, hP⟩ := hm run a run₁ hrun
    obtain ⟨es', rs', hes', hrs', hQ⟩ := hf a es rs hP run₁ b run' h
    refine ⟨es ++ es', rs ++ rs', ?_, ?_, hQ⟩
    · rw [hes', hes, List.append_assoc]
    · rw [hrs', hrs, List.append_assoc]

theorem WhenOk.mono {m : Stage σ α} {P' : α → List Exchange → List Report → Prop} (h : m.WhenOk P)
    (hP : ∀ a es rs, P a es rs → P' a es rs) : m.WhenOk P' := by
  intro run a run' hrun
  obtain ⟨es, rs, hes, hrs, ha⟩ := h run a run' hrun
  exact ⟨es, rs, hes, hrs, hP a es rs ha⟩

end Stage

/-! ### The transcript -/

namespace Replay

/-- What is reported on a confirmed transaction at a position of the block. -/
def Confirmed.reports (crypto : Crypto) (i : Nat) (x : Confirmed) : List Report :=
  announcement crypto i x.transaction x.accepted ++ confirmation i x.accepted x.receipt

/-- The reports on transactions that are confirmed one after the other; `i` is the position of the
first. -/
def reportsFrom (crypto : Crypto) : (i : Nat) → List Confirmed → List Report
  | _, [] => []
  | i, x :: xs => x.reports crypto i ++ reportsFrom crypto (i + 1) xs

/-- What is left behind by a replay of these transactions that ends well. -/
structure Transcript (crypto : Crypto) (i : Nat) (ts : List Transaction) (xs : List Confirmed)
    (receipts : List Receipt) (es : List Exchange) (rs : List Report) : Prop where
  transactions : ts = xs.map Confirmed.transaction
  receipts : receipts = xs.map Confirmed.receipt
  exchanges : es = xs.flatMap Confirmed.exchanges
  reports : rs = reportsFrom crypto i xs

section
variable {σ : Type} (crypto : Crypto) (node : Node σ)

theorem whenOk_awaitReceipt (h : Hash) (patience : Nat) :
    (awaitReceipt node h patience).WhenOk fun r es rs => rs = [] ∧
      ∃ pending, es = pendingPolls h pending ++ [⟨.receipt h, .ok (some r)⟩] := by
  induction patience with
  | zero => exact Stage.whenOk_throw _
  | succ patience ih =>
    refine (Stage.whenOk_perform node (.receipt h)).bind ?_
    rintro reply _ _ ⟨rfl, rfl⟩
    match reply with
    | some r => exact Stage.whenOk_pure ⟨rfl, 0, rfl⟩
    | none =>
      refine ih.mono ?_
      rintro r _ _ ⟨rfl, pending, rfl⟩
      exact ⟨rfl, pending + 1, rfl⟩

theorem whenOk_transaction (patience i : Nat) (t : Transaction) :
    (transaction crypto node patience i t).WhenOk fun r es rs => ∃ x : Confirmed,
      x.transaction = t ∧ x.receipt = r ∧ es = x.exchanges ∧ rs = x.reports crypto i := by
  rw [transaction_eq]
  refine (Stage.whenOk_perform node (.submit t.encoded)).bind ?_
  rintro accepted _ _ ⟨rfl, rfl⟩
  refine (Stage.whenOk_tell _).bind ?_
  rintro _ _ _ ⟨rfl, rfl⟩
  refine (whenOk_awaitReceipt node accepted patience).bind ?_
  rintro r _ _ ⟨rfl, pending, rfl⟩
  refine (Stage.whenOk_tell _).bind ?_
  rintro _ _ _ ⟨rfl, rfl⟩
  exact Stage.whenOk_pure ⟨⟨t, accepted, pending, r⟩, rfl, rfl, by simp [Confirmed.exchanges],
    by simp [Confirmed.reports]⟩

theorem whenOk_transactions (patience i : Nat) (ts : List Transaction) :
    (transactions crypto node patience i ts).WhenOk fun receipts es rs =>
      ∃ xs, Transcript crypto i ts xs receipts es rs := by
  induction ts generalizing i with
  | nil => exact Stage.whenOk_pure ⟨[], rfl, rfl, rfl, rfl⟩
  | cons t ts ih =>
    refine (whenOk_transaction crypto node patience i t).bind ?_
    rintro r _ _ ⟨x, rfl, rfl, rfl, rfl⟩
    refine (ih (i + 1)).bind ?_
    rintro receipts es rs ⟨xs, h⟩
    refine Stage.whenOk_pure ⟨x :: xs, ?_, ?_, ?_, ?_⟩
    · rw [h.transactions]; rfl
    · rw [h.receipts]; rfl
    · rw [h.exchanges, List.append_nil]; rfl
    · rw [h.reports, List.append_nil]; rfl

/-- A replay with a result has confirmed every transaction of the block; the last reports are on the
whole block. -/
theorem whenOk_block (patience : Nat) (b : Block) :
    (block crypto node patience b).WhenOk fun result es rs => ∃ xs total rs',
      Transcript crypto 0 b.transactions xs result.receipts es rs' ∧
      result.gasUsed = some total ∧ rs = rs' ++ summary b.header.gasUsed total result := by
  unfold block
  split
  · exact Stage.whenOk_throw _
  refine (whenOk_transactions crypto node patience 0 b.transactions).bind ?_
  rintro receipts es rs ⟨xs, h⟩
  have hconclude : (conclude b.header.gasUsed ⟨receipts⟩ : Stage σ Unit).WhenOk fun _ es' rs' =>
      es' = [] ∧ ∃ total, ExecutionResult.gasUsed ⟨receipts⟩ = some total ∧
        rs' = summary b.header.gasUsed total ⟨receipts⟩ := by
    rw [conclude_eq]
    cases hgas : ExecutionResult.gasUsed ⟨receipts⟩ with
    | none => exact Stage.whenOk_throw _
    | some total => exact (Stage.whenOk_tell _).mono fun _ _ _ h => ⟨h.1, total, rfl, h.2⟩
  refine hconclude.bind ?_
  rintro _ _ _ ⟨rfl, total, hgas, rfl⟩
  refine Stage.whenOk_pure ⟨xs, total, rs, ?_, hgas, by rw [List.append_nil]⟩
  rwa [List.append_nil, List.append_nil]

/-! ### Quiet replays -/

theorem Confirmed.accepted_of_quiet {i : Nat} {x : Confirmed}
    (quiet : ∀ r ∈ x.reports crypto i, r.level ≠ .warning) :
    x.accepted = x.transaction.hash crypto.hash := by
  by_contra hne
  have hwarning : ∃ r ∈ announcement crypto i x.transaction x.accepted, r.level = .warning := by
    rw [announcement, if_pos hne]
    exact ⟨_, List.mem_cons_self, rfl⟩
  obtain ⟨r, hr, hlevel⟩ := hwarning
  exact quiet r (List.mem_append_left _ hr) hlevel

theorem accepted_of_quiet {i : Nat} {xs : List Confirmed}
    (quiet : ∀ r ∈ reportsFrom crypto i xs, r.level ≠ .warning) :
    xs.map Confirmed.accepted = xs.map fun x => x.transaction.hash crypto.hash := by
  induction xs generalizing i with
  | nil => rfl
  | cons x xs ih =>
    obtain ⟨hx, hxs⟩ := List.forall_mem_append.mp quiet
    rw [List.map_cons, List.map_cons, Confirmed.accepted_of_quiet crypto hx, ih hxs]

/-- A replay that reports no warning has polled every transaction under the hash of its encoding, in
the order of the block. Its hashes are those of the encodings exactly if every receipt names the
hash that it was polled under. -/
theorem hashes_eq_iff_of_quiet {crypto : Crypto} {node : Node σ} {patience : Nat} {b : Block}
    {s : σ} {result : ExecutionResult} {run : Run σ}
    (ok : block crypto node patience b (Run.start s) = (.ok result, run))
    (quiet : ∀ r ∈ run.reports, r.level ≠ .warning) : ∃ xs : List Confirmed,
      run.exchanges = xs.flatMap Confirmed.exchanges ∧
      b.transactions = xs.map Confirmed.transaction ∧
      result.receipts = xs.map Confirmed.receipt ∧
      xs.map Confirmed.accepted = b.transactions.map (Transaction.hash crypto.hash) ∧
      (result.hashes = b.transactions.map (Transaction.hash crypto.hash) ↔
        ∀ x ∈ xs, x.receipt.transaction = x.accepted) := by
  obtain ⟨es, rs, hes, hrs, xs, total, rs', transcript, -, rfl⟩ :=
    whenOk_block crypto node patience b _ result run ok
  rw [Run.start, List.nil_append] at hes hrs
  rw [hrs] at quiet
  have hquiet := (List.forall_mem_append.mp quiet).1
  rw [transcript.reports] at hquiet
  have haccepted :
      xs.map Confirmed.accepted = b.transactions.map (Transaction.hash crypto.hash) := by
    rw [accepted_of_quiet crypto hquiet, transcript.transactions, List.map_map]
    rfl
  refine ⟨xs, hes.trans transcript.exchanges, transcript.transactions, transcript.receipts,
    haccepted, ?_⟩
  rw [← haccepted, ExecutionResult.hashes, transcript.receipts, List.map_map, List.map_inj_left]
  rfl

end

theorem eq_of_toOption {σ α : Type} {out : Except Fault α × Run σ} {a : α}
    (h : out.1.toOption = some a) : out = (.ok a, out.2) :=
  Prod.ext (eq_ok_of_toOption h) rfl

namespace Quiet

/-- Every signature is the payer's. -/
def hasher : Crypto :=
  { Payment.crypto with hash := Keccak.hash }

/-- The header declares the gas of the payment. -/
def charged : Block :=
  { Payment.block with header := { Payment.header with gasUsed := 21000 } }

def funded : InMemory :=
  { InMemory.fresh 2 with ledger := { Ledger.empty with
      entries := [(Payment.payer, ⟨210005, 0, [], []⟩)]
      coinbase := Payment.miner
      baseFee := 7 } }

end Quiet

open Quiet in
theorem hashes_eq_iff_of_quiet_charged :
    ∃ (result : ExecutionResult) (run : Run InMemory) (xs : List Confirmed),
      block hasher (InMemory.node hasher) 3 charged (Run.start funded) = (.ok result, run) ∧
      (∀ r ∈ run.reports, r.level ≠ .warning) ∧
      charged.transactions = xs.map Confirmed.transaction ∧
      xs.map Confirmed.accepted = charged.transactions.map (Transaction.hash Keccak.hash) ∧
      ∀ x ∈ xs, x.receipt.transaction = x.accepted := by
  obtain ⟨hhashes, quiet⟩ : (block hasher (InMemory.node hasher) 3 charged
        (Run.start funded)).1.toOption.map ExecutionResult.hashes =
          some (charged.transactions.map (Transaction.hash Keccak.hash)) ∧
      ∀ r ∈ (block hasher (InMemory.node hasher) 3 charged (Run.start funded)).2.reports,
        r.level ≠ .warning := by
    decide +kernel
  obtain ⟨result, hresult, hnamed⟩ := Option.map_eq_some_iff.mp hhashes
  have ok := eq_of_toOption hresult
  obtain ⟨xs, -, htransactions, -, haccepted, hiff⟩ := hashes_eq_iff_of_quiet ok quiet
  exact ⟨result, _, xs, ok, quiet, htransactions, haccepted, hiff.mp hnamed⟩

/-- A node that accepts every call. Its receipts name the same hash whatever they are asked for, and
report nothing else. -/
def misnaming : Node Unit where
  answer
    | .submit encoded, s => (.ok (Keccak.hash encoded), s)
    | .receipt _, s => (.ok (some ⟨FixedBytes.zero 32, none, none, none⟩), s)
    | c, s => Undeclared.obliging.answer c s

theorem misnaming_accepting : misnaming.Accepting := by
  intro c s
  cases c <;> exact ⟨_, _, rfl⟩

/-- No report tells that the receipt is not that of the transaction. -/
theorem not_hashes_eq_misnaming : misnaming.Accepting ∧
    ∃ (result : ExecutionResult) (run : Run Unit),
      block .ethereum misnaming 1 (Undeclared.block [37]) (Run.start ()) =
        (.ok result, run) ∧
      (∀ r ∈ run.reports, r.level ≠ .warning) ∧ result.hashes ≠
        (Undeclared.block [37]).transactions.map (Transaction.hash Keccak.hash) := by
  obtain ⟨hhashes, hne, quiet⟩ :
      (block .ethereum misnaming 1 (Undeclared.block [37]) (Run.start ())).1.toOption.map
        ExecutionResult.hashes = some [FixedBytes.zero 32] ∧
      [FixedBytes.zero 32] ≠
        (Undeclared.block [37]).transactions.map (Transaction.hash Keccak.hash) ∧
      ∀ r ∈ (block .ethereum misnaming 1 (Undeclared.block [37]) (Run.start ())).2.reports,
        r.level ≠ .warning := by
    decide +kernel
  obtain ⟨result, hresult, hnamed⟩ := Option.map_eq_some_iff.mp hhashes
  refine ⟨misnaming_accepting, result, _, eq_of_toOption hresult, quiet, ?_⟩
  rwa [hnamed]

end Replay

end VectorReplay
