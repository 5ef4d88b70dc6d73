import VectorReplay.Proofs.Execution
import VectorReplay.Proofs.Protocol.Lockstep

/-!
Pending polls are not observable on the in-memory node. Runs on nodes that differ only in how often a
receipt is pending go abreast: they end alike, with the same ledger, receipts, events and reports, and
each polls every accepted transaction as often as its own node lets it wait, and once more.
-/
namespace VectorReplay

open Replay (Confirmed)

/-! ### Pace -/

/-- Exchanges in which every accepted transaction is found pending a number of times and then has its
receipt, before any other call is made; nothing else is polled. -/
inductive Paced (pending : Nat) : List Exchange → Prop
  | start : Paced pending []
  | other {es : List Exchange} {x : Exchange} :
    Paced pending es → x.call.isReplaying = false → Paced pending (es ++ [x])
  | refused {es : List Exchange} (encoded : Bytes) (f : Fault) :
    Paced pending es → Paced pending (es ++ [⟨.submit encoded, .error f⟩])
  | confirmed {es : List Exchange} (x : Confirmed) :
    Paced pending es → x.pending = pending → Paced pending (es ++ x.exchanges)

namespace Exchange

/-- A poll of this hash, whatever its answer. -/
def polls (h : Hash) (x : Exchange) : Bool := x.call = .receipt h

/-- The hash of a submission that goes well. -/
def accepted : Exchange → Option Hash
  | ⟨.submit _, .ok h⟩ => some h
  | _ => none

/-- A submission that is answered with this hash. -/
def accepts (h : Hash) (x : Exchange) : Bool := x.accepted = some h

end Exchange

/-- A hash is polled once more for every transaction accepted under it than that is found pending. -/
theorem Paced.countP_polls {pending : Nat} {es : List Exchange} (h : Paced pending es) (k : Hash) :
    es.countP (Exchange.polls k) = (pending + 1) * es.countP (Exchange.accepts k) := by
  induction h with
  | start => rfl
  | @other es x _ hx ih =>
    have hpolls : x.polls k = false := by
      apply decide_eq_false
      intro heq
      rw [heq] at hx
      cases hx
    have haccepted : x.accepted = none := by
      unfold Exchange.accepted
      split
      · cases hx
      · rfl
    simp [List.countP_append, hpolls, Exchange.accepts, haccepted, ih]
  | refused encoded f _ ih =>
    simp [List.countP_append, Exchange.polls, Exchange.accepts, Exchange.accepted, ih]
  | confirmed x _ hx ih =>
    have hcounts : x.exchanges.countP (Exchange.polls k) =
        (pending + 1) * x.exchanges.countP (Exchange.accepts k) := by
      by_cases hk : x.accepted = k <;>
        simp [Confirmed.exchanges, Replay.pendingPolls, List.countP_append,
          List.countP_replicate, Exchange.polls, Exchange.accepts, Exchange.accepted, hk, hx]
    rw [List.countP_append, List.countP_append, hcounts, ih, Nat.mul_add]

namespace InMemory

/-! ### Runs abreast -/

/-- Runs that can be told apart only by their polls. -/
structure Abreast (p q : Nat) (run run' : Run InMemory) : Prop where
  pending : run.node.pendingPolls = p
  pending' : run'.node.pendingPolls = q
  ledger : run.node.ledger = run'.node.ledger
  receipts : run.node.receipts = run'.node.receipts
  events : run.node.events = run'.node.events
  unreachable : run.node.unreachable = run'.node.unreachable
  reports : run.reports = run'.reports
  pace : Paced p run.exchanges
  pace' : Paced q run'.exchanges

theorem abreast_fresh (p q : Nat) : Abreast p q (Run.start (fresh p)) (Run.start (fresh q)) :=
  ⟨rfl, rfl, rfl, rfl, rfl, rfl, rfl, .start, .start⟩

/-- The same node with other counts of polls. -/
def withPolls (m : InMemory) (pending remaining : Nat) : InMemory :=
  { m with pendingPolls := pending, remainingPolls := remaining }

theorem Abreast.node_eq {p q : Nat} {run run' : Run InMemory} (h : Abreast p q run run') :
    run'.node = run.node.withPolls q run'.node.remainingPolls := by
  rw [withPolls, h.ledger, h.receipts, h.events, h.unreachable, ← h.pending']

/-- From runs abreast, two stages end in the same way and leave the runs abreast; they do not stall. -/
def InStep {α : Type} (p q : Nat) (m m' : Stage InMemory α) : Prop :=
  ∀ run run', Abreast p q run run' → ∃ r out out', m run = (r, out) ∧ m' run' = (r, out') ∧
    r ≠ .error .stalled ∧ Abreast p q out out'

section
variable {α β : Type} {crypto : Crypto} {p q : Nat}

theorem inStep_pure (a : α) : InStep p q (pure a) (pure a) :=
  fun run run' h => ⟨.ok a, run, run', rfl, rfl, nofun, h⟩

theorem inStep_throw {f : Fault} (hf : f ≠ .stalled) :
    InStep p q (throw f : Stage InMemory α) (throw f) :=
  fun run run' h => ⟨.error f, run, run', rfl, rfl, fun heq => hf (Except.error.inj heq), h⟩

theorem inStep_tell (reports : List Report) :
    InStep p q (Stage.tell reports) (Stage.tell reports) :=
  fun _ _ h => ⟨.ok (), _, _, rfl, rfl, nofun,
    { h with reports := congrArg (· ++ reports) h.reports }⟩

theorem InStep.bind {m m' : Stage InMemory α} {f f' : α → Stage InMemory β} (hm : InStep p q m m')
    (hf : ∀ a, InStep p q (f a) (f' a)) : InStep p q (m >>= f) (m' >>= f') := by
  intro run run' h
  obtain ⟨r, out, out', hrun, hrun', hstalled, hout⟩ := hm run run' h
  cases r with
  | error e =>
    exact ⟨.error e, out, out', bind_of_error hrun, bind_of_error hrun',
      fun heq => hstalled (congrArg _ (Except.error.inj heq)), hout⟩
  | ok a =>
    rw [bind_of_ok hrun, bind_of_ok hrun']
    exact hf a out out' hout

theorem inStep_forM {γ : Type} {f : γ → Stage InMemory PUnit} (h : ∀ c, InStep p q (f c) (f c))
    (cs : List γ) : InStep p q (cs.forM f) (cs.forM f) := by
  induction cs with
  | nil => exact inStep_pure _
  | cons c cs ih => exact (h c).bind fun _ => ih

/-! ### Calls -/

/-- A call that neither submits nor polls does not depend on the counts of polls. -/
theorem answer_withPolls (crypto : Crypto) {c : Call} (hc : c.isReplaying = false) (m : InMemory)
    (k l : Nat) : (node crypto).answer c (m.withPolls k l) =
      (((node crypto).answer c m).1, ((node crypto).answer c m).2.withPolls k l) := by
  simp only [node, withPolls]
  split
  · rfl
  · cases c
    case submit | receipt => cases hc
    all_goals rfl

theorem answer_ne_stalled (crypto : Crypto) (c : Call) (m : InMemory) :
    ((node crypto).answer c m).1 ≠ .error .stalled := by
  intro h
  simp only [node] at h
  split at h
  · cases h
  · cases c
    case submit encoded =>
      simp only [reachable, submit] at h
      split at h <;> cases h
    case receipt x =>
      simp only [reachable, receipt] at h
      split at h
      · cases h
      · split at h <;> cases h
    all_goals cases h

theorem inStep_perform {c : Call} (hc : c.isReplaying = false) :
    InStep p q (Stage.perform (node crypto) c) (Stage.perform (node crypto) c) := by
  intro run run' h
  have hstalled := answer_ne_stalled crypto c run.node
  have hkept : (node crypto).answer c run.node = _ :=
    answer_withPolls crypto hc run.node run.node.pendingPolls run.node.remainingPolls
  have hother := answer_withPolls crypto hc run.node q run'.node.remainingPolls
  rw [← h.node_eq] at hother
  obtain ⟨r, m, hanswer⟩ : ∃ r m, (node crypto).answer c run.node = (r, m) := ⟨_, _, rfl⟩
  have hrun : (node crypto).answer c run.node = (r, m.withPolls p run.node.remainingPolls) := by
    rw [hkept, hanswer, h.pending]
  rw [hanswer] at hstalled hother
  refine ⟨r, _, _, Stage.perform_of_answer hrun, Stage.perform_of_answer hother, hstalled, ?_⟩
  exact ⟨rfl, rfl, rfl, rfl, rfl, rfl, h.reports, h.pace.other hc, h.pace'.other hc⟩

/-! ### Transactions -/

/-- A submission is refused or accepted whatever the counts of polls. Only an acceptance makes the node
count its polls anew, and leaves a receipt to be polled. -/
theorem answer_submit_withPolls (crypto : Crypto) (encoded : Bytes) (m : InMemory) :
    ∃ m₁ : InMemory,
      (∃ f, f ≠ .stalled ∧ ∀ k l, (node crypto).answer (.submit encoded) (m.withPolls k l) =
        (.error f, m₁.withPolls k l)) ∨
      m₁.unreachable = false ∧ (∃ r, m₁.receipts.get? (crypto.hash encoded) = some r) ∧
        ∀ k l, (node crypto).answer (.submit encoded) (m.withPolls k l) =
          (.ok (crypto.hash encoded), m₁.withPolls k k) := by
  cases hreach : m.unreachable with
  | true =>
    exact ⟨m, .inl ⟨.failed (.node (Call.submit encoded).method "connection refused"), by simp,
      fun k l => if_pos hreach⟩⟩
  | false =>
    have hanswer (k l : Nat) : (node crypto).answer (.submit encoded) (m.withPolls k l) =
        submit crypto encoded (m.withPolls k l) := if_neg (by simp [withPolls, hreach])
    obtain ⟨reply, ledger, hledger⟩ :
        ∃ reply ledger, Ledger.submit crypto encoded m.ledger = (reply, ledger) := ⟨_, _, rfl⟩
    match reply, hledger with
    | .error (.refused r), hledger =>
      refine ⟨{ m with ledger }, .inl ⟨.failed (.node (Call.submit encoded).method r.message), by simp,
        fun k l => ?_⟩⟩
      rw [hanswer, submit, withPolls, hledger]
      rfl
    | .error .aborted, hledger =>
      refine ⟨{ m with ledger }, .inl ⟨.aborted, by simp, fun k l => ?_⟩⟩
      rw [hanswer, submit, withPolls, hledger]
      rfl
    | .ok (), hledger =>
      let h := crypto.hash encoded
      refine ⟨{ m with
        ledger
        receipts := m.receipts.set h (m.nextReceipt h)
        events := m.events ++ [.submitted h] }, .inr ⟨hreach, ?_, fun k l => ?_⟩⟩
      · exact ⟨_, Table.get?_set_self _ _ _⟩
      · rw [hanswer, submit, withPolls, hledger]
        rfl

theorem transaction_of_refused {patience : Nat} (i : Nat) {t : Transaction} {run : Run InMemory}
    {m : InMemory} {f : Fault}
    (hanswer : (node crypto).answer (.submit t.encoded) run.node = (.error f, m)) :
    Replay.transaction crypto (node crypto) patience i t run = (.error f, { run with
      node := m
      exchanges := run.exchanges ++ [⟨.submit t.encoded, .error f⟩] }) := by
  rw [Replay.transaction_eq]
  exact bind_of_error (Stage.perform_of_answer hanswer)

theorem transaction_of_accepted {patience : Nat} (i : Nat) {t : Transaction} {run : Run InMemory}
    {m : InMemory} {accepted : Hash} {r : Receipt}
    (hanswer : (node crypto).answer (.submit t.encoded) run.node = (.ok accepted, m))
    (hreachable : m.unreachable = false) (hreceipt : m.receipts.get? accepted = some r)
    (hpolls : m.remainingPolls < patience) :
    Replay.transaction crypto (node crypto) patience i t run = (.ok r, {
      node := { m with remainingPolls := 0, events := m.events ++ [.confirmed accepted] }
      exchanges := run.exchanges ++ Confirmed.exchanges ⟨t, accepted, m.remainingPolls, r⟩
      reports := run.reports ++ Replay.announcement crypto i t accepted ++
        Replay.confirmation i accepted r }) := by
  rw [Replay.transaction_eq]
  refine (bind_of_ok (Stage.perform_of_answer hanswer)).trans ?_
  rw [bind_of_ok (Stage.tell_apply _ _),
    bind_of_ok (awaitReceipt_apply hreachable hreceipt hpolls), bind_of_ok (Stage.tell_apply _ _)]
  simp [Confirmed.exchanges]

theorem inStep_transaction {patience patience' : Nat} (hp : p < patience) (hq : q < patience')
    (i : Nat) (t : Transaction) :
    InStep p q (Replay.transaction crypto (node crypto) patience i t)
      (Replay.transaction crypto (node crypto) patience' i t) := by
  -- between the submission and the receipt the runs are not abreast: the counters differ, and so do the
  -- exchanges so far, so the transaction is taken as a whole
  intro run run' h
  have hnode : run.node.withPolls p run.node.remainingPolls = run.node := by
    rw [← h.pending]
    rfl
  have hnode' := h.node_eq.symm
  obtain ⟨m, ⟨f, hf, hanswer⟩ | ⟨hreach, ⟨r, hr⟩, hanswer⟩⟩ :=
    answer_submit_withPolls crypto t.encoded run.node
  · have hrun := hnode ▸ hanswer p run.node.remainingPolls
    have hrun' := hnode' ▸ hanswer q run'.node.remainingPolls
    refine ⟨.error f, _, _, transaction_of_refused i hrun, transaction_of_refused i hrun',
      fun heq => hf (Except.error.inj heq), ?_⟩
    exact ⟨rfl, rfl, rfl, rfl, rfl, rfl, h.reports, h.pace.refused _ f, h.pace'.refused _ f⟩
  · have hrun := hnode ▸ hanswer p run.node.remainingPolls
    have hrun' := hnode' ▸ hanswer q run'.node.remainingPolls
    refine ⟨.ok r, _, _, transaction_of_accepted i hrun hreach hr hp,
      transaction_of_accepted i hrun' hreach hr hq, nofun, ?_⟩
    refine ⟨rfl, rfl, rfl, rfl, rfl, rfl, ?_, h.pace.confirmed _ rfl, h.pace'.confirmed _ rfl⟩
    rw [h.reports]

theorem inStep_transactions {patience patience' : Nat} (hp : p < patience) (hq : q < patience')
    (i : Nat) (ts : List Transaction) :
    InStep p q (Replay.transactions crypto (node crypto) patience i ts)
      (Replay.transactions crypto (node crypto) patience' i ts) := by
  induction ts generalizing i with
  | nil => exact inStep_pure _
  | cons t ts ih =>
    exact (inStep_transaction hp hq i t).bind fun r => (ih (i + 1)).bind fun rs => inStep_pure _

theorem inStep_replay {patience patience' : Nat} (hp : p < patience) (hq : q < patience')
    (b : Block) : InStep p q (Replay.block crypto (node crypto) patience b)
      (Replay.block crypto (node crypto) patience' b) := by
  unfold Replay.block
  split
  · exact inStep_throw nofun
  · refine (inStep_transactions hp hq 0 b.transactions).bind fun rs => ?_
    refine InStep.bind ?_ fun _ => inStep_pure _
    rw [Replay.conclude_eq]
    cases ExecutionResult.gasUsed ⟨rs⟩ with
    | none => exact inStep_throw nofun
    | some total => exact inStep_tell _

/-! ### Before and after the block -/

theorem inStep_seedAccounts (pre : Accounts) :
    InStep p q (Seed.accounts crypto (node crypto) pre) (Seed.accounts crypto (node crypto) pre) := by
  apply inStep_forM
  rintro ⟨address, a⟩
  refine (inStep_perform rfl).bind fun _ => (inStep_perform rfl).bind fun _ => ?_
  refine (inStep_perform rfl).bind fun _ => ?_
  exact (inStep_forM (fun _ => inStep_perform rfl) _).bind fun _ => inStep_tell _

theorem inStep_seedBlock (b : Block) :
    InStep p q (Seed.block crypto (node crypto) b) (Seed.block crypto (node crypto) b) := by
  have hchainId : InStep p q (Seed.chainId (node crypto) b) (Seed.chainId (node crypto) b) := by
    unfold Seed.chainId
    cases b.chainId with
    | none => exact inStep_pure _
    | some id =>
      exact (inStep_perform rfl).bind fun _ => inStep_forM (fun _ => inStep_tell _) _
  have hbaseFee : InStep p q (Seed.baseFee (node crypto) b.header.baseFee)
      (Seed.baseFee (node crypto) b.header.baseFee) := by
    cases b.header.baseFee with
    | none => exact inStep_pure _
    | some fee => exact inStep_perform rfl
  rw [Seed.block_eq]
  refine hchainId.bind fun _ => (inStep_perform rfl).bind fun _ => hbaseFee.bind fun _ => ?_
  exact (inStep_perform rfl).bind fun _ => inStep_tell _

theorem inStep_seed (pre : Accounts) (b : Block) : InStep p q (Seed.all crypto (node crypto) pre b)
    (Seed.all crypto (node crypto) pre b) :=
  (inStep_seedAccounts pre).bind fun _ => (inStep_seedBlock b).bind fun _ => inStep_tell _

theorem inStep_compare {α : Type} [DecidableEq α] {a : Address} {field : StateField}
    {text : α → String} {expected actual : α} :
    InStep p q (Verify.compare crypto a field text expected actual)
      (Verify.compare crypto a field text expected actual) := by
  unfold Verify.compare
  split
  · exact inStep_pure _
  · exact inStep_throw nofun

theorem inStep_verifyAccount (a : Address) (x : Account) :
    InStep p q (Verify.account crypto (node crypto) a x)
      (Verify.account crypto (node crypto) a x) := by
  refine (inStep_perform rfl).bind fun _ => inStep_compare.bind fun _ => ?_
  refine (inStep_perform rfl).bind fun _ => inStep_compare.bind fun _ => ?_
  refine (inStep_perform rfl).bind fun _ => inStep_compare.bind fun _ => ?_
  exact inStep_forM (fun _ => (inStep_perform rfl).bind fun _ => inStep_compare) _

theorem inStep_verifyAccounts (skip : SkipList) (post : Accounts) :
    InStep p q (Verify.accounts crypto (node crypto) skip post)
      (Verify.accounts crypto (node crypto) skip post) := by
  induction post with
  | nil => exact inStep_pure _
  | cons e post ih =>
    unfold Verify.accounts
    split
    · exact (inStep_tell _).bind fun _ => ih
    · exact (inStep_verifyAccount _ _).bind fun _ => ih.bind fun _ => inStep_pure _

theorem inStep_verify (skip : SkipList) (post : Accounts) :
    InStep p q (Verify.all crypto (node crypto) skip post)
      (Verify.all crypto (node crypto) skip post) :=
  (inStep_verifyAccounts skip post).bind fun _ => inStep_tell _

theorem inStep_execute {patience patience' : Nat} (hp : p < patience) (hq : q < patience')
    (skip : SkipList) (v : TestVector) (b : Block) :
    InStep p q (execute crypto (node crypto) patience skip v b)
      (execute crypto (node crypto) patience' skip v b) := by
  refine (inStep_seed v.pre b).bind fun _ => (inStep_replay hp hq b).bind fun _ => ?_
  exact (inStep_verify skip v.post).bind fun _ => inStep_pure _

end

/-- How often receipts are pending is not observable. On fresh nodes that differ in nothing else, runs of
a vector and a block end, with the same result or fault, the same reports, ledger, receipts and events.
Each accepted transaction is polled at once, once more than it is found pending. -/
theorem execute_latency (crypto : Crypto) (skip : SkipList) (v : TestVector) (b : Block) (p q : Nat) :
    ∃ r run run',
      Stage.Ends (fun patience => execute crypto (node crypto) patience skip v b)
        (Run.start (fresh p)) (r, run) ∧
      Stage.Ends (fun patience => execute crypto (node crypto) patience skip v b)
        (Run.start (fresh q)) (r, run') ∧
      r ≠ .error .stalled ∧ Abreast p q run run' ∧
      ∀ h, run.exchanges.countP (Exchange.polls h) =
        (p + 1) * run.exchanges.countP (Exchange.accepts h) := by
  obtain ⟨r, run, run', hrun, hrun', hr, habreast⟩ :=
    inStep_execute (Nat.lt_succ_self p) (Nat.lt_succ_self q) skip v b _ _ (abreast_fresh p q)
  have hpatient := patient_execute crypto (node crypto) skip v b
  refine ⟨r, run, run', ?_, ?_, hr, habreast, habreast.pace.countP_polls⟩
  · rw [← hrun]
    exact hpatient.ends (by rwa [hrun])
  · rw [← hrun']
    exact hpatient.ends (by rwa [hrun'])

end InMemory

end VectorReplay
