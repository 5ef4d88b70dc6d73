import VectorReplay.Node.InMemory
import VectorReplay.Proofs.Ledger.Transfer
import VectorReplay.Proofs.Protocol.Confirmation

/-!
Calls of the in-memory node, told by the world and the context that its ledger stands for.
-/
namespace VectorReplay.InMemory

/-- A node that can be reached shows a world in a context. -/
structure Shows (m : InMemory) (polls : Nat) (c : Context) (w : World) : Prop where
  reachable : m.unreachable = false
  polls : m.pendingPolls = polls
  context : m.ledger.context = c
  world : m.ledger.world = w

/-- After a stage that ends well, the node shows this world. -/
def Reaches {α : Type} (polls : Nat) (c : Context) (w : World) (_ : α) (run : Run InMemory) :
    Prop :=
  run.node.Shows polls c w

theorem shows_fresh (polls : Nat) :
    (fresh polls).Shows polls ⟨none, FixedBytes.zero 20, 0, 0⟩ .empty :=
  ⟨rfl, rfl, rfl, Ledger.world_empty⟩

variable {crypto : Crypto} {p : Nat} {c : Context} {w : World} {run : Run InMemory}

theorem perform_eq (call : Call) {reply : Except Fault call.Reply} {m : InMemory}
    (h : run.node.unreachable = false) (hreply : reachable crypto call run.node = (reply, m)) :
    Stage.perform (node crypto) call run =
      (reply, { run with node := m, exchanges := run.exchanges ++ [⟨call, reply⟩] }) :=
  Stage.perform_of_answer (by simp [node, h, hreply])

theorem follows_tell {reports : List Report} (h : run.node.Shows p c w) :
    Follows (Stage.tell reports) run (some w) (Reaches p c) :=
  follows_of_ok rfl h

/-! ### Administration -/

/-- A call that only changes the ledger is told by the context and the world of the new ledger. -/
theorem follows_change (h : run.node.Shows p c w) (call : Call) {reply : call.Reply} {l : Ledger}
    {events : List Event} {c' : Context} {w' : World}
    (hreply : reachable crypto call run.node = (.ok reply, { run.node with ledger := l, events }))
    (hc : l.context = c') (hw : l.world = w') :
    Follows (Stage.perform (node crypto) call) run (some w') (Reaches p c') :=
  follows_of_ok (perform_eq call h.reachable hreply) ⟨h.reachable, h.polls, hc, hw⟩

theorem follows_setCode (h : run.node.Shows p c w) (a : Address) (code : Bytes) :
    Follows (Stage.perform (node crypto) (.setCode a code)) run
      (some { w with code := Function.update w.code a code }) (Reaches p c) :=
  follows_change h _ rfl h.context (by rw [Ledger.world_setCode, h.world])

theorem follows_setBalance (h : run.node.Shows p c w) (a : Address) (balance : Word) :
    Follows (Stage.perform (node crypto) (.setBalance a balance)) run
      (some { w with balance := Function.update w.balance a balance.toNat }) (Reaches p c) :=
  follows_change h _ rfl h.context (by rw [Ledger.world_setBalance, h.world])

theorem follows_setNonce (h : run.node.Shows p c w) (a : Address) (nonce : Word) :
    Follows (Stage.perform (node crypto) (.setNonce a nonce)) run
      (some { w with nonce := Function.update w.nonce a nonce.toNat }) (Reaches p c) :=
  follows_change h _ rfl h.context (by rw [Ledger.world_setNonce, h.world])

theorem follows_setStorage (h : run.node.Shows p c w) (a : Address) (key value : Word) :
    Follows (Stage.perform (node crypto) (.setStorage a (Word.toHash key) (Word.toHash value))) run
      (some { w with slot := Function.update w.slot a (Function.update (w.slot a) key value) })
      (Reaches p c) :=
  follows_change h _ rfl h.context (by rw [Ledger.world_setStorage, h.world])

theorem follows_setChainId (h : run.node.Shows p c w) (chainId : UInt64) :
    Follows (Stage.perform (node crypto) (.setChainId chainId)) run (some w)
      (Reaches p { c with chainId := some chainId }) :=
  follows_change h _ rfl (by rw [← h.context]; rfl) h.world

theorem follows_setCoinbase (h : run.node.Shows p c w) (coinbase : Address) :
    Follows (Stage.perform (node crypto) (.setCoinbase coinbase)) run (some w)
      (Reaches p { c with coinbase }) :=
  follows_change h _ rfl (by rw [← h.context]; rfl) h.world

theorem follows_setNextBaseFee (h : run.node.Shows p c w) (baseFee : Word) :
    Follows (Stage.perform (node crypto) (.setNextBaseFee baseFee)) run (some w)
      (Reaches p { c with baseFee }) :=
  follows_change h _ rfl (by rw [← h.context]; rfl) h.world

theorem follows_setGasLimit (h : run.node.Shows p c w) (gasLimit : Word) :
    Follows (Stage.perform (node crypto) (.setGasLimit gasLimit)) run (some w)
      (Reaches p { c with gasLimit }) :=
  follows_change h _ rfl (by rw [← h.context]; rfl) h.world

/-! ### Transactions -/

/-- The node is about to hand out a receipt that reports the gas of a transfer. -/
def Expects (m : InMemory) (transaction : Hash) : Prop :=
  ∃ r, m.receipts.get? transaction = some r ∧ r.gasUsed = some Transfer.gas

/-- A submission follows the rule of transfers; it leaves a receipt that is pending at first. -/
theorem follows_submit (h : run.node.Shows p c w) (encoded : Bytes) :
    Follows (Stage.perform (node crypto) (.submit encoded)) run (w.submit crypto c encoded)
      fun w' accepted run' => run'.node.Shows p c w' ∧ run'.node.remainingPolls = p ∧
        run'.node.Expects accepted := by
  have hl := Ledger.follows_submit run.node.ledger crypto encoded
  rw [h.context, h.world] at hl
  cases hw : w.submit crypto c encoded with
  | none =>
    rw [hw] at hl
    obtain ⟨e, l', he⟩ := hl
    obtain ⟨fault, m, hsubmit⟩ : ∃ fault m, submit crypto encoded run.node = (.error fault, m) := by
      rw [submit, he]
      cases e <;> exact ⟨_, _, rfl⟩
    exact follows_of_error (perform_eq _ h.reachable hsubmit)
  | some w' =>
    rw [hw] at hl
    obtain ⟨_, l', hok, hworld, hcontext⟩ := hl
    have hsubmit : submit crypto encoded run.node = (.ok (crypto.hash encoded), { run.node with
        ledger := l'
        receipts := run.node.receipts.set (crypto.hash encoded)
          (run.node.nextReceipt (crypto.hash encoded))
        remainingPolls := run.node.pendingPolls
        events := run.node.events ++ [.submitted (crypto.hash encoded)] }) := by
      rw [submit, hok]
    refine follows_of_ok (perform_eq _ h.reachable hsubmit)
      ⟨⟨h.reachable, h.polls, hcontext.trans h.context, hworld⟩, h.polls, ?_⟩
    exact ⟨_, Table.get?_set_self _ _ _, rfl⟩

/-- With enough patience a receipt is handed out once no poll is left for which it is pending. -/
theorem awaitReceipt_apply {accepted : Hash} {r : Receipt} {patience : Nat}
    (hreachable : run.node.unreachable = false)
    (hreceipt : run.node.receipts.get? accepted = some r)
    (hpolls : run.node.remainingPolls < patience) :
    Replay.awaitReceipt (node crypto) accepted patience run = (.ok r, { run with
      node := { run.node with
        remainingPolls := 0
        events := run.node.events ++ [.confirmed accepted] }
      exchanges := run.exchanges ++ (Replay.pendingPolls accepted run.node.remainingPolls ++
        [⟨.receipt accepted, .ok (some r)⟩]) }) := by
  induction patience generalizing run with
  | zero => omega
  | succ patience ih =>
    unfold Replay.awaitReceipt
    cases hremaining : run.node.remainingPolls with
    | zero =>
      have hpoll : receipt accepted run.node = (.ok (some r), { run.node with
          remainingPolls := 0
          events := run.node.events ++ [.confirmed accepted] }) := by
        rw [receipt, if_neg (by omega), hreceipt, ← hremaining]
      exact bind_of_ok (perform_eq (.receipt accepted) hreachable hpoll)
    | succ remaining =>
      have hpoll : receipt accepted run.node =
          (.ok none, { run.node with remainingPolls := remaining }) := by
        rw [receipt, if_pos (by omega), hremaining, Nat.add_sub_cancel]
      have hleft : remaining < patience := by omega
      rw [bind_of_ok (perform_eq (.receipt accepted) hreachable hpoll)]
      refine (ih ?reachable ?receipt ?polls).trans ?_
      case reachable => exact hreachable
      case receipt => exact hreceipt
      case polls => exact hleft
      simp only [Replay.pendingPolls, List.replicate_succ, List.append_assoc, List.cons_append,
        List.nil_append]

theorem follows_awaitReceipt {accepted : Hash} {patience : Nat} (h : run.node.Shows p c w)
    (hpolls : run.node.remainingPolls < patience) (hr : run.node.Expects accepted) :
    Follows (Replay.awaitReceipt (node crypto) accepted patience) run (some w)
      fun w r run' => run'.node.Shows p c w ∧ r.gasUsed = some Transfer.gas := by
  obtain ⟨r, hget, hgas⟩ := hr
  exact follows_of_ok (awaitReceipt_apply h.reachable hget hpolls)
    ⟨⟨h.reachable, h.polls, h.context, h.world⟩, hgas⟩

/-! ### Queries -/

/-- A query changes nothing that the node shows; what holds of its answer is passed on. -/
theorem follows_query (h : run.node.Shows p c w) (call : Call) {reply : call.Reply}
    {P : call.Reply → Prop} (hreply : reachable crypto call run.node = (.ok reply, run.node))
    (hP : P reply) : Follows (Stage.perform (node crypto) call) run (some ())
      fun _ x run' => run'.node.Shows p c w ∧ P x :=
  follows_of_ok (perform_eq call h.reachable hreply) ⟨h, hP⟩

theorem follows_balance (h : run.node.Shows p c w) (a : Address) :
    Follows (Stage.perform (node crypto) (.balance a)) run (some ())
      fun _ (x : Word) run' => run'.node.Shows p c w ∧ x.toNat = w.balance a :=
  follows_query h _ rfl (by rw [← h.world]; rfl)

theorem follows_transactionCount (h : run.node.Shows p c w) (a : Address) :
    Follows (Stage.perform (node crypto) (.transactionCount a)) run (some ())
      fun _ (x : Word) run' => run'.node.Shows p c w ∧ x.toNat = w.nonce a :=
  follows_query h _ rfl (by rw [← h.world]; rfl)

theorem follows_code (h : run.node.Shows p c w) (a : Address) :
    Follows (Stage.perform (node crypto) (.code a)) run (some ())
      fun _ (x : Bytes) run' => run'.node.Shows p c w ∧ x = w.code a :=
  follows_query h _ rfl (by rw [← h.world]; rfl)

theorem follows_storage (h : run.node.Shows p c w) (a : Address) (key : Word) :
    Follows (Stage.perform (node crypto) (.storage a (Word.toHash key))) run (some ())
      fun _ (x : Hash) run' => run'.node.Shows p c w ∧ Word.ofHash x = w.slot a key :=
  follows_query h _ rfl (by rw [← h.world]; rfl)

end VectorReplay.InMemory
