import VectorReplay.Session
import VectorReplay.Proofs.Replay
import VectorReplay.Proofs.Seed

/-!
The states that a node goes through in a run. Stages reach their node by calls alone, so the exchanges
of a run are the node's whole history, and every cut through them is a moment at which it had a state.
-/
namespace VectorReplay

variable {σ α β : Type}

/-! ### Histories of a node -/

namespace Node

/-- From one state, a node goes by these exchanges to another one. -/
inductive Trace (node : Node σ) : σ → List Exchange → σ → Prop
  | nil {s : σ} : Trace node s [] s
  | cons {s s' s'' : σ} {x : Exchange} {es : List Exchange} :
    node.answer x.call s = (x.reply, s') → Trace node s' es s'' → Trace node s (x :: es) s''

variable {node : Node σ} {s s' s'' : σ} {es es' : List Exchange}

theorem Trace.append (h : node.Trace s es s') (h' : node.Trace s' es' s'') :
    node.Trace s (es ++ es') s'' := by
  induction h with
  | nil => exact h'
  | cons hx _ ih => exact .cons hx (ih h')

/-- Between two parts of a history there is a state. -/
theorem Trace.split (h : node.Trace s (es ++ es') s'') :
    ∃ s', node.Trace s es s' ∧ node.Trace s' es' s'' := by
  induction es generalizing s with
  | nil => exact ⟨s, .nil, h⟩
  | cons x es ih =>
    cases h with
    | cons hx h =>
      obtain ⟨s', hfront, hback⟩ := ih h
      exact ⟨s', .cons hx hfront, hback⟩

end Node

namespace Stage

variable {node : Node σ}

/-- Stages that are made of calls of one node, reports and faults. -/
inductive Consists (node : Node σ) : {α : Type} → Stage σ α → Prop
  | pure {α : Type} (a : α) : Consists node (Pure.pure a : Stage σ α)
  | throw {α : Type} (e : Fault) : Consists node (MonadExcept.throw e : Stage σ α)
  | tell (reports : List Report) : Consists node (Stage.tell reports : Stage σ Unit)
  | perform (c : Call) : Consists node (Stage.perform node c)
  | bind {α β : Type} {m : Stage σ α} {f : α → Stage σ β} :
    Consists node m → (∀ a, Consists node (f a)) → Consists node (m >>= f)

theorem consists_forM {γ : Type} {f : γ → Stage σ PUnit} (h : ∀ c, Consists node (f c))
    (cs : List γ) : Consists node (cs.forM f) := by
  induction cs with
  | nil => exact .pure _
  | cons c cs ih => exact (h c).bind fun _ => ih

/-- What such a stage adds to the exchanges of a run is the history of its node. -/
theorem Consists.trace {m : Stage σ α} (h : Consists node m) (run : Run σ) : ∃ es,
    (m run).2.exchanges = run.exchanges ++ es ∧ node.Trace run.node es (m run).2.node := by
  induction h generalizing run with
  | pure a => exact ⟨[], (List.append_nil _).symm, .nil⟩
  | throw e => exact ⟨[], (List.append_nil _).symm, .nil⟩
  | tell reports => exact ⟨[], (List.append_nil _).symm, .nil⟩
  | perform c => exact ⟨_, rfl, .cons rfl .nil⟩
  | @bind α β m f _ _ ihm ihf =>
    obtain ⟨es, hes, htrace⟩ := ihm run
    obtain ⟨r, run', hr⟩ : ∃ r run', m run = (r, run') := ⟨_, _, rfl⟩
    rw [hr] at hes htrace
    cases r with
    | error e =>
      rw [bind_of_error hr]
      exact ⟨es, hes, htrace⟩
    | ok a =>
      obtain ⟨es', hes', htrace'⟩ := ihf a run'
      rw [bind_of_ok hr]
      exact ⟨es ++ es', by rw [hes', hes, List.append_assoc], htrace.append htrace'⟩

end Stage

open Stage

/-! ### Runs -/

theorem Seed.consists_account (crypto : Crypto) (node : Node σ) (address : Address) (a : Account) :
    Consists node (Seed.account crypto node address a) := by
  refine (Consists.perform _).bind fun _ => (Consists.perform _).bind fun _ => ?_
  refine (Consists.perform _).bind fun _ => ?_
  exact (consists_forM (fun _ => .perform _) _).bind fun _ => .tell _

theorem Seed.consists_chainId (node : Node σ) (b : Block) : Consists node (Seed.chainId node b) := by
  unfold Seed.chainId
  split
  · exact .pure _
  · exact (Consists.perform _).bind fun _ => consists_forM (fun _ => .tell _) _

theorem Seed.consists_all (crypto : Crypto) (node : Node σ) (pre : Accounts) (b : Block) :
    Consists node (Seed.all crypto node pre b) := by
  have hfee : Consists node (Seed.baseFee node b.header.baseFee) := by
    unfold Seed.baseFee
    split
    · exact .pure _
    · exact .perform _
  have hblock : Consists node (Seed.block crypto node b) := by
    rw [Seed.block_eq]
    refine (Seed.consists_chainId node b).bind fun _ => (Consists.perform _).bind fun _ => ?_
    exact hfee.bind fun _ => (Consists.perform _).bind fun _ => .tell _
  refine (consists_forM (fun _ => Seed.consists_account crypto node _ _) pre).bind fun _ => ?_
  exact hblock.bind fun _ => .tell _

theorem Replay.consists_awaitReceipt (node : Node σ) (h : Hash) (patience : Nat) :
    Consists node (Replay.awaitReceipt node h patience) := by
  induction patience with
  | zero => exact .throw _
  | succ patience ih =>
    refine (Consists.perform _).bind fun r => ?_
    match r with
    | some x => exact .pure x
    | none => exact ih

theorem Replay.consists_transactions (crypto : Crypto) (node : Node σ) (patience i : Nat)
    (ts : List Transaction) : Consists node (Replay.transactions crypto node patience i ts) := by
  induction ts generalizing i with
  | nil => exact .pure _
  | cons t ts ih =>
    have htransaction : Consists node (Replay.transaction crypto node patience i t) := by
      rw [Replay.transaction_eq]
      refine (Consists.perform _).bind fun accepted => (Consists.tell _).bind fun _ => ?_
      refine (Replay.consists_awaitReceipt node accepted patience).bind fun r => ?_
      exact (Consists.tell _).bind fun _ => .pure r
    exact htransaction.bind fun r => (ih (i + 1)).bind fun rs => .pure _

theorem Replay.consists_block (crypto : Crypto) (node : Node σ) (patience : Nat) (b : Block) :
    Consists node (Replay.block crypto node patience b) := by
  unfold Replay.block
  split
  · exact .throw _
  · refine (Replay.consists_transactions crypto node patience 0 _).bind fun rs => ?_
    have hconclude : Consists node (Replay.conclude b.header.gasUsed ⟨rs⟩ : Stage σ Unit) := by
      rw [Replay.conclude_eq]
      split
      · exact .throw _
      · exact .tell _
    exact hconclude.bind fun _ => .pure _

theorem Verify.consists_compare {γ : Type} [DecidableEq γ] (crypto : Crypto) (node : Node σ)
    (address : Address) (field : StateField) (text : γ → String) (expected actual : γ) :
    Consists node (Verify.compare crypto address field text expected actual : Stage σ Unit) := by
  unfold Verify.compare
  split
  · exact .pure _
  · exact .throw _

theorem Verify.consists_account (crypto : Crypto) (node : Node σ) (address : Address)
    (expected : Account) : Consists node (Verify.account crypto node address expected) := by
  have hcompare {γ : Type} [DecidableEq γ] := Verify.consists_compare (γ := γ) crypto node address
  unfold Verify.account
  refine (Consists.perform _).bind fun _ => (hcompare _ _ _ _).bind fun _ => ?_
  refine (Consists.perform _).bind fun _ => (hcompare _ _ _ _).bind fun _ => ?_
  refine (Consists.perform _).bind fun _ => (hcompare _ _ _ _).bind fun _ => ?_
  exact consists_forM (fun _ => (Consists.perform _).bind fun _ => hcompare _ _ _ _) _

theorem Verify.consists_accounts (crypto : Crypto) (node : Node σ) (skip : SkipList)
    (post : Accounts) : Consists node (Verify.accounts crypto node skip post) := by
  induction post with
  | nil => exact .pure _
  | cons entry post ih =>
    obtain ⟨address, expected⟩ := entry
    unfold Verify.accounts
    split
    · exact (Consists.tell _).bind fun _ => ih
    · refine (Verify.consists_account crypto node address expected).bind fun _ => ?_
      exact ih.bind fun _ => .pure _

/-- The exchanges of a run are the history of its node, however the run ends. -/
theorem trace_execute (crypto : Crypto) (node : Node σ) (patience : Nat) (skip : SkipList)
    (v : TestVector) (b : Block) (s : σ) :
    node.Trace s (execute crypto node patience skip v b (Run.start s)).2.exchanges
      (execute crypto node patience skip v b (Run.start s)).2.node := by
  have hconsists : Consists node (execute crypto node patience skip v b) := by
    refine (Seed.consists_all crypto node v.pre b).bind fun _ => ?_
    refine (Replay.consists_block crypto node patience b).bind fun result => ?_
    refine Consists.bind ?_ fun _ => .pure result
    exact (Verify.consists_accounts crypto node skip v.post).bind fun _ => .tell _
  obtain ⟨es, hes, htrace⟩ := hconsists.trace (Run.start s)
  rw [Run.start, List.nil_append] at hes
  rw [Run.start, hes]
  exact htrace

end VectorReplay
