import VectorReplay.Session
import VectorReplay.Proofs.Protocol.Confirmation
import VectorReplay.Proofs.Protocol.Plan

/-!
The order of a whole run, on any node: the state is seeded along a plan, then the block is replayed,
then the accounts are queried. The first call that fails ends the run, and only a run that passes says
so, in its last report.
-/
namespace VectorReplay

variable {σ : Type}

open Stage

/-- Queries of the state. -/
def Call.isQuery : Call → Bool
  | .balance _ | .transactionCount _ | .code _ | .storage _ _ => true
  | _ => false

/-- A call is administrative, part of a replay or a query. -/
theorem Call.kinds (c : Call) :
    (c.isAdministrative ∧ ¬ c.isReplaying ∧ ¬ c.isQuery) ∨
    (¬ c.isAdministrative ∧ c.isReplaying ∧ ¬ c.isQuery) ∨
    (¬ c.isAdministrative ∧ ¬ c.isReplaying ∧ c.isQuery) := by
  cases c <;> simp [isAdministrative, isReplaying, isQuery]

/-! ### Replaying and querying -/

namespace Replay

/-- The faults of a replay for which no call accounts. -/
inductive OwnFault : Fault → Prop
  | emptyBlock : OwnFault (.failed .emptyBlock)
  | aborted : OwnFault .aborted
  | stalled : OwnFault .stalled

/-- A replay submits and polls. -/
def rules : Rules where
  calls c := c.isReplaying
  faults := OwnFault
  reports l := l ≠ .success

theorem obeys_awaitReceipt (node : Node σ) (h : Hash) (patience : Nat) :
    (awaitReceipt node h patience).Obeys rules := by
  induction patience with
  | zero => exact obeys_throw .stalled
  | succ patience ih =>
    refine (obeys_perform node rfl).bind fun reply => ?_
    match reply with
    | some r => exact obeys_pure r
    | none => exact ih

theorem obeys_transaction (crypto : Crypto) (node : Node σ) (patience i : Nat) (t : Transaction) :
    (transaction crypto node patience i t).Obeys rules := by
  have hannounced (accepted : Hash) :
      ∀ x ∈ announcement crypto i t accepted, rules.reports x.level := by
    intro x hx
    unfold announcement at hx
    split at hx <;> simp at hx <;> grind [rules]
  have hconfirmed (accepted : Hash) (r : Receipt) :
      ∀ x ∈ confirmation i accepted r, rules.reports x.level := by
    intro x hx
    unfold confirmation at hx
    split at hx <;> simp at hx <;> grind [rules]
  rw [transaction_eq]
  refine (obeys_perform node rfl).bind fun accepted => ?_
  refine (obeys_tell (hannounced accepted)).bind fun _ => ?_
  refine (obeys_awaitReceipt node accepted patience).bind fun r => ?_
  exact (obeys_tell (hconfirmed accepted r)).bind fun _ => obeys_pure r

theorem obeys_transactions (crypto : Crypto) (node : Node σ) (patience i : Nat)
    (ts : List Transaction) : (transactions crypto node patience i ts).Obeys rules := by
  induction ts generalizing i with
  | nil => exact obeys_pure _
  | cons t ts ih =>
    refine (obeys_transaction crypto node patience i t).bind fun r => ?_
    exact (ih (i + 1)).bind fun rs => obeys_pure _

theorem obeys_block (crypto : Crypto) (node : Node σ) (patience : Nat) (b : Block) :
    (block crypto node patience b).Obeys rules := by
  unfold block
  split
  · exact obeys_throw .emptyBlock
  · refine (obeys_transactions crypto node patience 0 b.transactions).bind fun rs => ?_
    have hconclude : (conclude b.header.gasUsed ⟨rs⟩ : Stage σ Unit).Obeys rules := by
      rw [conclude_eq]
      cases ExecutionResult.gasUsed ⟨rs⟩ with
      | none => exact obeys_throw .aborted
      | some total =>
        apply obeys_tell
        intro x hx
        unfold summary at hx
        split at hx <;> simp at hx <;> grind [rules]
    exact hconclude.bind fun _ => obeys_pure _

end Replay

namespace Verify

/-- Verifying only queries, and fails of itself only with a mismatch. -/
def rules : Rules where
  calls c := c.isQuery
  faults f := ∃ d, f = .failed (.mismatch d)
  reports l := l ≠ .success

theorem obeys_compare {γ : Type} [DecidableEq γ] (crypto : Crypto) (address : Address)
    (field : StateField) (text : γ → String) (expected actual : γ) :
    (compare crypto address field text expected actual : Stage σ Unit).Obeys rules := by
  unfold compare
  split
  · exact obeys_pure _
  · exact obeys_throw ⟨_, rfl⟩

theorem obeys_account (crypto : Crypto) (node : Node σ) (address : Address) (expected : Account) :
    (account crypto node address expected).Obeys rules := by
  unfold account
  refine (obeys_perform node rfl).bind fun _ => (obeys_compare _ _ _ _ _ _).bind fun _ => ?_
  refine (obeys_perform node rfl).bind fun _ => (obeys_compare _ _ _ _ _ _).bind fun _ => ?_
  refine (obeys_perform node rfl).bind fun _ => (obeys_compare _ _ _ _ _ _).bind fun _ => ?_
  refine obeys_forM (fun _ => ?_) _
  exact (obeys_perform node rfl).bind fun _ => obeys_compare _ _ _ _ _ _

theorem obeys_accounts (crypto : Crypto) (node : Node σ) (skip : SkipList) (post : Accounts) :
    (accounts crypto node skip post).Obeys rules := by
  induction post with
  | nil => exact obeys_pure _
  | cons entry post ih =>
    obtain ⟨address, expected⟩ := entry
    unfold accounts
    split
    · exact (obeys_report (by simp [rules])).bind fun _ => ih
    · refine (obeys_account crypto node address expected).bind fun _ => ?_
      exact ih.bind fun _ => obeys_pure _

end Verify

/-! ### Phases -/

/-- A run before it says that it passed, with the number of accounts that were compared. -/
def executeChecks (crypto : Crypto) (node : Node σ) (patience : Nat) (skip : SkipList)
    (v : TestVector) (b : Block) : Stage σ (ExecutionResult × Nat) := do
  Seed.all crypto node v.pre b
  let result ← Replay.block crypto node patience b
  let n ← Verify.accounts crypto node skip v.post
  pure (result, n)

/-- What a run says that passed. -/
def passReport (n : Nat) : Report :=
  ⟨.success, "Post state is valid (" ++ toString n ++ " accounts checked)"⟩

theorem execute_eq (crypto : Crypto) (node : Node σ) (patience : Nat) (skip : SkipList)
    (v : TestVector) (b : Block) :
    execute crypto node patience skip v b = (do
      let (result, n) ← executeChecks crypto node patience skip v b
      Stage.tell [passReport n]
      pure result) := by
  simp only [execute, executeChecks, Verify.all, bind_assoc, pure_bind, Stage.report_eq_tell,
    passReport]

/-- Three phases in a row, each entered only after the one before it went well. -/
inductive Phased (plan : List Call) (ts : List Transaction) : List Exchange → Prop
  | seeding {es : List Exchange} {x : Exchange} {f : Fault} :
    (∀ y ∈ es ++ [x], y.call.isAdministrative) → administration (es ++ [x]) <+: plan →
    x.Failed f → Phased plan ts (es ++ [x])
  | replaying {opening es : List Exchange} :
    (∀ y ∈ opening, y.call.isAdministrative) → administration opening = plan →
    (∀ y ∈ es, y.call.isReplaying) → Phased plan ts (opening ++ es)
  | querying {opening replay es : List Exchange} {rs : List Receipt} :
    (∀ y ∈ opening, y.call.isAdministrative) → administration opening = plan →
    (∀ y ∈ replay, y.call.isReplaying) → Replay.Trail ts replay (.ok rs) →
    (∀ y ∈ es, y.call.isQuery) → Phased plan ts (opening ++ (replay ++ es))

theorem phased_executeChecks (crypto : Crypto) (node : Node σ) (patience : Nat) (skip : SkipList)
    (v : TestVector) (b : Block) :
    (executeChecks crypto node patience skip v b).Does fun es _ =>
      Phased (Seed.plan v.pre b) b.transactions es := by
  have hseed := (Seed.obeys_all crypto node v.pre b).does.and (Seed.yields_all crypto node v.pre b)
  have hreplay := (Replay.obeys_block crypto node patience b).does.and
    (Replay.does_block crypto node patience b)
  have hquery := (Verify.obeys_accounts crypto node skip v.post).does
  refine Does.bind hseed ?_ fun opening _ hopening => ?_
  · rintro es f ⟨⟨hcalls, hsettles⟩, hplan, -⟩
    rcases hsettles.fault with hown | ⟨before, x, rfl, hx⟩
    · exact hown.elim
    · exact .seeding hcalls hplan hx
  obtain ⟨⟨hcalls, -⟩, -, hplan⟩ := hopening
  refine Does.bind hreplay ?_ fun replay result hresult => ?_
  · rintro es f ⟨⟨hreplaying, -⟩, -⟩
    exact .replaying hcalls (hplan () rfl) hreplaying
  obtain ⟨⟨hreplaying, -⟩, hcourse⟩ := hresult
  cases hcourse with
  | done _ htrail =>
    refine Does.bind hquery ?_ fun es n hes => ?_
    · rintro es f ⟨hqueries, -⟩
      exact .querying hcalls (hplan () rfl) hreplaying htrail hqueries
    · apply does_pure
      rw [List.append_nil]
      exact .querying hcalls (hplan () rfl) hreplaying htrail hes.1

/-! ### Where a call stands -/

/-- What is not in the first part of a list stands behind all of it. -/
theorem append_eq_append_cons {α : Type} {as bs before after : List α} {x : α}
    (h : as ++ bs = before ++ x :: after) (hx : x ∉ as) :
    ∃ middle, before = as ++ middle ∧ bs = middle ++ x :: after := by
  rcases List.append_eq_append_iff.mp h with ⟨middle, hbefore, hbs⟩ | ⟨rest, has, hrest⟩
  · exact ⟨middle, hbefore, hbs⟩
  · cases rest with
    | nil => exact ⟨[], by simpa using has.symm, by simpa using hrest.symm⟩
    | cons y rest =>
      obtain ⟨rfl, -⟩ := List.cons.inj hrest
      exact absurd (by simp [has]) hx

theorem administration_append (es es' : List Exchange) :
    administration (es ++ es') = administration es ++ administration es' :=
  List.filterMap_append

namespace Phased

variable {plan : List Call} {ts : List Transaction} {es before after : List Exchange} {x : Exchange}

/-- Seeding is all there is, or it is complete and nothing else is administrative. -/
theorem exists_opening (h : Phased plan ts es) : (∀ y ∈ es, y.call.isAdministrative) ∨
    ∃ opening later, es = opening ++ later ∧ (∀ y ∈ opening, y.call.isAdministrative) ∧
      administration opening = plan ∧ ∀ y ∈ later, ¬ y.call.isAdministrative := by
  have hkind {y : Exchange} (hy : y.call.isReplaying ∨ y.call.isQuery) :
      ¬ y.call.isAdministrative := by
    have := y.call.kinds
    grind
  cases h with
  | seeding hall => exact .inl hall
  | replaying hopening hplan hreplay =>
    exact .inr ⟨_, _, rfl, hopening, hplan, fun y hy => hkind (.inl (hreplay y hy))⟩
  | querying hopening hplan hreplay _ hqueries =>
    exact .inr ⟨_, _, rfl, hopening, hplan, List.forall_mem_append.mpr
      ⟨fun y hy => hkind (.inl (hreplay y hy)), fun y hy => hkind (.inr (hqueries y hy))⟩⟩

/-- So it is at every moment. -/
theorem front (h : Phased plan ts (before ++ after)) : (∀ y ∈ before, y.call.isAdministrative) ∨
    ∃ opening later, before = opening ++ later ∧ (∀ y ∈ opening, y.call.isAdministrative) ∧
      administration opening = plan ∧ ∀ y ∈ later, ¬ y.call.isAdministrative := by
  rcases h.exists_opening with hall | ⟨opening, later, hes, hopening, hplan, hlater⟩
  · exact .inl (List.forall_mem_append.mp hall).1
  · rcases List.append_eq_append_iff.mp hes with ⟨rest, rfl, -⟩ | ⟨rest, rfl, rfl⟩
    · exact .inl (List.forall_mem_append.mp hopening).1
    · exact .inr ⟨opening, rest, rfl, hopening, hplan, (List.forall_mem_append.mp hlater).1⟩

/-- No part of a replay before the plan is complete. -/
theorem planned_of_isReplaying (h : Phased plan ts es) (hes : es = before ++ x :: after)
    (hx : x.call.isReplaying) : administration before = plan := by
  have hadmin : ¬ x.call.isAdministrative := by have := x.call.kinds; grind
  rcases h.exists_opening with hall | ⟨opening, later, rfl, hopening, hplan, hlater⟩
  · exact absurd (hall x (by simp [hes])) hadmin
  · obtain ⟨middle, rfl, rfl⟩ := append_eq_append_cons hes fun hmem => hadmin (hopening x hmem)
    have hquiet : administration middle = [] := by
      apply administration_of_none
      intro y hy
      simpa using hlater y (by simp [hy])
    rw [administration_append, hplan, hquiet, List.append_nil]

/-- No administrative call behind a part of a replay. -/
theorem not_administrative_after (h : Phased plan ts es) (hes : es = before ++ x :: after)
    (hx : x.call.isReplaying) : ∀ y ∈ after, ¬ y.call.isAdministrative := by
  have hadmin : ¬ x.call.isAdministrative := by have := x.call.kinds; grind
  rcases h.exists_opening with hall | ⟨opening, later, rfl, hopening, -, hlater⟩
  · exact absurd (hall x (by simp [hes])) hadmin
  · obtain ⟨middle, rfl, rfl⟩ := append_eq_append_cons hes fun hmem => hadmin (hopening x hmem)
    exact fun y hy => hlater y (by simp [hy])

/-- No query before every transaction is confirmed. -/
theorem confirmed_of_isQuery (h : Phased plan ts es) (hes : es = before ++ x :: after)
    (hx : x.call.isQuery) : ∃ opening replay queries rs,
      before = opening ++ replay ++ queries ∧ Replay.Trail ts replay (.ok rs) := by
  have hadmin : ¬ x.call.isAdministrative := by have := x.call.kinds; grind
  have hreplaying : ¬ x.call.isReplaying := by have := x.call.kinds; grind
  cases h with
  | seeding hall => exact absurd (hall x (by simp [hes])) hadmin
  | @replaying opening es hopening _ hreplay =>
    obtain ⟨middle, rfl, rfl⟩ := append_eq_append_cons hes fun hmem => hadmin (hopening x hmem)
    exact absurd (hreplay x (by simp)) hreplaying
  | @querying opening replay es rs hopening _ hreplay htrail hqueries =>
    obtain ⟨middle, rfl, hrest⟩ := append_eq_append_cons hes fun hmem => hadmin (hopening x hmem)
    obtain ⟨queries, rfl, -⟩ :=
      append_eq_append_cons hrest fun hmem => hreplaying (hreplay x hmem)
    exact ⟨opening, replay, queries, rs, (List.append_assoc ..).symm, htrail⟩

/-- The plan is left only at an administrative call that fails. -/
theorem planned (h : Phased plan ts es) : administration es = plan ∨
    administration es <+: plan ∧
      ∃ before x f, es = before ++ [x] ∧ x.call.isAdministrative ∧ x.Failed f := by
  have hquiet {es : List Exchange} (hm : ∀ y ∈ es, y.call.isReplaying ∨ y.call.isQuery) :
      administration es = [] := by
    apply administration_of_none
    intro y hy
    have := y.call.kinds
    have := hm y hy
    grind
  cases h with
  | @seeding before x f hall hplan hx =>
    exact Or.inr ⟨hplan, before, x, f, rfl, hall x (by simp), hx⟩
  | replaying _ hplan hreplay =>
    left
    rw [administration_append, hplan, hquiet fun y hy => Or.inl (hreplay y hy), List.append_nil]
  | querying _ hplan hreplay _ hqueries =>
    left
    rw [administration_append, hplan, hquiet ?_, List.append_nil]
    exact List.forall_mem_append.mpr
      ⟨fun y hy => Or.inl (hreplay y hy), fun y hy => Or.inr (hqueries y hy)⟩

end Phased

/-! ### Whole runs -/

/-- The rules of all three phases. -/
def executionRules : Rules where
  calls _ := True
  faults f := Replay.OwnFault f ∨ ∃ d, f = .failed (.mismatch d)
  reports l := l ≠ .success

theorem obeys_executeChecks (crypto : Crypto) (node : Node σ) (patience : Nat) (skip : SkipList)
    (v : TestVector) (b : Block) :
    (executeChecks crypto node patience skip v b).Obeys executionRules := by
  refine Obeys.bind ?_ fun _ => Obeys.bind ?_ fun result => Obeys.bind ?_ fun n => obeys_pure _
  · exact (Seed.obeys_all crypto node v.pre b).mono (by simp [executionRules])
      (fun _ h => h.elim) fun _ h => h
  · exact (Replay.obeys_block crypto node patience b).mono (by simp [executionRules])
      (fun _ h => Or.inl h) fun _ h => h
  · exact (Verify.obeys_accounts crypto node skip v.post).mono (by simp [executionRules])
      (fun _ h => Or.inr h) fun _ h => h

/-- A run ends as its checks do; only if they go well, one report is added. -/
theorem execute_apply (crypto : Crypto) (node : Node σ) (patience : Nat) (skip : SkipList)
    (v : TestVector) (b : Block) (run : Run σ) :
    execute crypto node patience skip v b run =
      match executeChecks crypto node patience skip v b run with
      | (.ok (result, n), run') =>
        (.ok result, { run' with reports := run'.reports ++ [passReport n] })
      | (.error f, run') => (.error f, run') := by
  rw [execute_eq, bind_apply]
  rcases executeChecks crypto node patience skip v b run with ⟨_ | ⟨result, n⟩, run'⟩ <;> rfl

theorem exchanges_execute (crypto : Crypto) (node : Node σ) (patience : Nat) (skip : SkipList)
    (v : TestVector) (b : Block) (run : Run σ) :
    (execute crypto node patience skip v b run).2.exchanges =
      (executeChecks crypto node patience skip v b run).2.exchanges := by
  rw [execute_apply]
  rcases executeChecks crypto node patience skip v b run with ⟨_ | _, run'⟩ <;> rfl

/-- How a run of a block goes by its exchanges, its reports and its result. -/
structure Orderly (pre : Accounts) (b : Block) (es : List Exchange) (reports : List Report)
    (r : Except Fault ExecutionResult) : Prop where
  /-- The administrative calls go along the plan of seeding, to its end unless one of them fails and
  ends the run. -/
  planned : administration es = Seed.plan pre b ∨ administration es <+: Seed.plan pre b ∧
    ∃ before x f, es = before ++ [x] ∧ x.call.isAdministrative ∧ x.Failed f
  /-- Nothing is submitted or polled before the whole plan went well. -/
  seeded_first : ∀ before x after, es = before ++ x :: after → x.call.isReplaying →
    administration before = Seed.plan pre b ∧ ∀ y ∈ before, y.Answered
  /-- Nothing is administered after a submission. -/
  submitted_last : ∀ before x after encoded, es = before ++ x :: after →
    x.call = .submit encoded → ∀ y ∈ after, ¬ y.call.isAdministrative
  /-- Nothing is queried before every transaction was submitted and confirmed. -/
  confirmed_first : ∀ before x after, es = before ++ x :: after → x.call.isQuery →
    ∃ opening replay queries rs, before = opening ++ replay ++ queries ∧
      Replay.Trail b.transactions replay (.ok rs)
  /-- A call that fails is the last one, and its fault is the result. -/
  stops : ∀ before x after f, es = before ++ x :: after → x.Failed f → after = [] ∧ r = .error f
  /-- Only two errors need no call that fails. -/
  errors : ∀ e, r = .error (.failed e) →
    (∃ x ∈ es, x.Failed (.failed e)) ∨ e = .emptyBlock ∨ ∃ d, e = .mismatch d
  /-- A run that passes reports so once, at the end, -/
  passes : (∃ result, r = .ok result) ↔ ∃ earlier last, reports = earlier ++ [last] ∧
    last.level = .success ∧ ∀ x ∈ earlier, x.level ≠ .success
  /-- and no other run does. -/
  fails : ∀ f, r = .error f → ∀ x ∈ reports, x.level ≠ .success

theorem Phased.orderly {pre : Accounts} {b : Block} {es : List Exchange} {reports : List Report}
    {r : Except Fault ExecutionResult} (h : Phased (Seed.plan pre b) b.transactions es)
    (hsettles : Settles executionRules.faults es r)
    (hok : ∀ a, r = .ok a → ∃ earlier last, reports = earlier ++ [last] ∧
      last.level = .success ∧ ∀ x ∈ earlier, x.level ≠ .success)
    (herror : ∀ f, r = .error f → ∀ x ∈ reports, x.level ≠ .success) :
    Orderly pre b es reports r where
  planned := h.planned
  seeded_first := by
    intro before x after hes hx
    exact ⟨h.planned_of_isReplaying hes hx, hsettles.answered_before hes⟩
  submitted_last := by
    intro before x after encoded hes hx
    exact h.not_administrative_after hes (by rw [hx]; rfl)
  confirmed_first := fun before x after hes hx => h.confirmed_of_isQuery hes hx
  stops := fun before x after f hes hx => hsettles.of_failed hes hx
  errors := by
    intro e he
    rw [he] at hsettles
    rcases hsettles.fault with hown | ⟨before, x, hes, hx⟩
    · rcases hown with hown | ⟨d, hd⟩
      · cases hown
        exact Or.inr (Or.inl rfl)
      · cases hd
        exact Or.inr (Or.inr ⟨d, rfl⟩)
    · exact Or.inl ⟨x, by simp [hes], hx⟩
  passes := by
    constructor
    · rintro ⟨a, ha⟩
      exact hok a ha
    · rintro ⟨earlier, last, hlast, hsuccess, -⟩
      cases hr : r with
      | ok a => exact ⟨a, rfl⟩
      | error f => exact absurd hsuccess (herror f hr last (by simp [hlast]))
  fails := herror

/-- Every run is orderly, whatever its node answers and however long it polls. -/
theorem execute_orderly (crypto : Crypto) (node : Node σ) (patience : Nat) (skip : SkipList)
    (v : TestVector) (b : Block) (s : σ) :
    Orderly v.pre b (execute crypto node patience skip v b (Run.start s)).2.exchanges
      (execute crypto node patience skip v b (Run.start s)).2.reports
      (execute crypto node patience skip v b (Run.start s)).1 := by
  have hobeys := obeys_executeChecks crypto node patience skip v b
  have hreports := hobeys.reports_start s
  obtain ⟨⟨-, hsettles⟩, hphased⟩ :=
    (hobeys.does.and (phased_executeChecks crypto node patience skip v b)).start s
  rw [execute_apply]
  obtain ⟨r, run, hrun⟩ : ∃ r run,
    executeChecks crypto node patience skip v b (Run.start s) = (r, run) := ⟨_, _, rfl⟩
  rw [hrun] at hreports hsettles hphased ⊢
  cases r with
  | error f => exact hphased.orderly hsettles.error_cast (by simp) fun _ _ => hreports
  | ok a =>
    obtain ⟨result, n⟩ := a
    refine hphased.orderly (.well hsettles.answered) ?_ (by simp)
    intro a _
    exact ⟨run.reports, passReport n, rfl, rfl, hreports⟩

end VectorReplay
