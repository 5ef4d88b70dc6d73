import VectorReplay.Proofs.InMemory.Calls
import VectorReplay.Proofs.Seed

/-!
Seeding the in-memory node: accounts of distinct addresses lie on top of what the node shows, and
the context becomes the one of the block.
-/
namespace VectorReplay.InMemory

variable {crypto : Crypto} {p : Nat} {c : Context} {w : World} {run : Run InMemory}

theorem follows_seedStorage (a : Address) {es : List (Word × Word)}
    (ascending : es.Pairwise fun d e => d.1 < e.1) (h : run.node.Shows p c w) :
    Follows (es.forM fun e =>
        Stage.perform (node crypto) (.setStorage a (Word.toHash e.1) (Word.toHash e.2)))
      run (some (w.store a es)) (Reaches p c) := by
  induction es generalizing w run with
  | nil =>
    rw [World.store_nil]
    exact follows_of_ok rfl h
  | cons e es ih =>
    rw [← World.store_cons w a ascending]
    exact follows_seq (follows_setStorage h a e.1 e.2) fun _ run' h' => ih ascending.of_cons h'

theorem follows_seedAccount (a : Address) (x : Account) (h : run.node.Shows p c w) :
    Follows (Seed.account crypto (node crypto) a x) run (some (w.seed [(a, x)])) (Reaches p c) := by
  rw [World.seed_singleton]
  refine follows_seq (follows_setCode h a x.code) fun _ run₁ h₁ => ?_
  refine follows_seq (follows_setBalance h₁ a x.balance) fun _ run₂ h₂ => ?_
  refine follows_seq (follows_setNonce h₂ a x.nonce) fun _ run₃ h₃ => ?_
  refine follows_seq (follows_seedStorage a x.storage.ascending h₃) fun _ run₄ h₄ => ?_
  exact follows_tell h₄

theorem follows_seedAccounts {pre : Accounts} (distinct : pre.Distinct) (h : run.node.Shows p c w) :
    Follows (Seed.accounts crypto (node crypto) pre) run (some (w.seed pre)) (Reaches p c) := by
  induction pre generalizing w run with
  | nil => exact follows_of_ok rfl h
  | cons e pre ih =>
    obtain ⟨a, x⟩ := e
    obtain ⟨hnew, hrest⟩ := List.nodup_cons.mp distinct
    rw [← World.seed_cons w hnew]
    exact follows_seq (follows_seedAccount a x h) fun _ run' h' => ih hrest h'

theorem follows_reports {γ : Type} {f : γ → List Report} (cs : List γ) (h : run.node.Shows p c w) :
    Follows (cs.forM fun x => Stage.tell (f x)) run (some w) (Reaches p c) := by
  induction cs generalizing run with
  | nil => exact follows_of_ok rfl h
  | cons x cs ih => exact follows_seq (follows_tell h) fun _ run' h' => ih h'

theorem follows_seedChainId (b : Block) (h : run.node.Shows p c w) (hnone : c.chainId = none) :
    Follows (Seed.chainId (node crypto) b) run (some w)
      (Reaches p { c with chainId := b.chainId }) := by
  unfold Seed.chainId
  cases hb : b.chainId with
  | none =>
    have hc : c = { c with chainId := none } := by rw [← hnone]
    rw [← hc]
    exact follows_of_ok rfl h
  | some id =>
    refine follows_seq (follows_setChainId h id) fun _ run' h' => ?_
    exact follows_reports _ h'

theorem follows_seedBlock (b : Block) (h : run.node.Shows p c w) (hnone : c.chainId = none)
    (hzero : c.baseFee = 0) : Follows (Seed.block crypto (node crypto) b) run (some w)
      (Reaches p (Context.ofBlock b)) := by
  rw [Seed.block_eq]
  refine follows_seq (follows_seedChainId b h hnone) fun _ run₁ h₁ => ?_
  refine follows_seq (follows_setCoinbase h₁ b.header.coinbase) fun _ run₂ h₂ => ?_
  have hfee : Follows (Seed.baseFee (node crypto) b.header.baseFee) run₂ (some w) (Reaches p
      { c with
        chainId := b.chainId
        coinbase := b.header.coinbase
        baseFee := b.header.baseFee.getD 0 }) := by
    unfold Seed.baseFee
    cases b.header.baseFee with
    | none =>
      rw [Option.getD_none, ← hzero]
      exact follows_of_ok rfl h₂
    | some fee => exact follows_setNextBaseFee h₂ fee
  refine follows_seq hfee fun _ run₃ h₃ => ?_
  refine follows_seq (follows_setGasLimit h₃ b.header.gasLimit) fun _ run₄ h₄ => ?_
  exact follows_tell h₄

/-- After seeding, a fresh node shows the accounts and nothing else, in the context of the block. -/
theorem follows_seed {pre : Accounts} (distinct : pre.Distinct) (b : Block) :
    Follows (Seed.all crypto (node crypto) pre b) (Run.start (fresh p))
      (some (World.ofAccounts pre)) (Reaches p (Context.ofBlock b)) := by
  refine follows_seq (follows_seedAccounts distinct (shows_fresh p)) fun _ run₁ h₁ => ?_
  refine follows_seq (follows_seedBlock b h₁ rfl rfl) fun _ run₂ h₂ => ?_
  exact follows_tell h₂

end VectorReplay.InMemory
