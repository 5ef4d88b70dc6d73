import VectorReplay.Proofs.Execution
import VectorReplay.Proofs.InMemory.Readback
import VectorReplay.Proofs.Ledger.Money
import VectorReplay.Proofs.Ledger.Refusal
import VectorReplay.Proofs.Protocol.Order

/-!
Submissions to the in-memory node, in any state. One that is accepted moves money and counts a nonce
up; one that is refused changes nothing that a query shows.
-/
namespace VectorReplay.InMemory

variable {crypto : Crypto} {encoded : Bytes} {m m' : InMemory}

theorem submit_eq_ok {h : Hash} (ok : submit crypto encoded m = (.ok h, m')) :
    h = crypto.hash encoded ∧ ∃ ledger, Ledger.submit crypto encoded m.ledger = (.ok (), ledger) ∧
      m' = { m with
        ledger
        receipts := m.receipts.set h (m.nextReceipt h)
        remainingPolls := m.pendingPolls
        events := m.events ++ [.submitted h] } := by
  unfold submit at ok
  rcases hl : Ledger.submit crypto encoded m.ledger with ⟨(r | _) | _, ledger⟩
  case ok =>
    rw [hl] at ok
    cases ok
    exact ⟨rfl, ledger, rfl, rfl⟩
  all_goals
    rw [hl] at ok
    cases ok

theorem submit_eq_failed {e : Error} (failed : submit crypto encoded m = (.error (.failed e), m')) :
    ∃ r ledger, Ledger.submit crypto encoded m.ledger = (.error (.refused r), ledger) ∧
      m' = { m with ledger } := by
  unfold submit at failed
  rcases hl : Ledger.submit crypto encoded m.ledger with ⟨(r | _) | _, ledger⟩
  case error.refused =>
    rw [hl] at failed
    cases failed
    exact ⟨r, ledger, rfl, rfl⟩
  all_goals
    rw [hl] at failed
    cases failed

theorem answer_of_unreachable (h : m.unreachable = true) (c : Call) : (node crypto).answer c m =
    (.error (.failed (.node c.method "connection refused")), m) := by
  simp only [node, h, if_true]

/-- Only a node that can be reached accepts anything. -/
theorem reachable_of_ok {c : Call} {reply : c.Reply}
    (h : (node crypto).answer c m = (.ok reply, m')) : reachable crypto c m = (.ok reply, m') := by
  cases hu : m.unreachable with
  | true =>
    rw [answer_of_unreachable hu] at h
    cases h
  | false => rwa [answer_of_reachable hu] at h

/-! ### Accepted submissions -/

/-- A node after a transfer next to the node before. -/
structure Transferred (crypto : Crypto) (encoded : Bytes) (t : Transfer) (before after : InMemory) :
    Prop where
  decoded : Transfer.decode crypto encoded = .ok t
  /-- The base fee of the gas is all that is lost. -/
  total : after.ledger.total + 21000 * before.ledger.baseFee.toNat = before.ledger.total
  otherBalances : ∀ a, a ≠ t.sender → a ≠ t.recipient → a ≠ before.ledger.coinbase →
    (after.ledger.entry a).balance = (before.ledger.entry a).balance
  nonce : (before.ledger.entry t.sender).nonce = t.nonce ∧
    (after.ledger.entry t.sender).nonce.toNat = t.nonce.toNat + 1
  otherNonces : ∀ a, a ≠ t.sender →
    (after.ledger.entry a).nonce = (before.ledger.entry a).nonce
  codes : ∀ a, (after.ledger.entry a).code = (before.ledger.entry a).code
  slots : ∀ a key, (after.ledger.entry a).slot key = (before.ledger.entry a).slot key
  context : after.ledger.context = before.ledger.context
  receipt : after.receipts.get? (crypto.hash encoded) = some {
    transaction := crypto.hash encoded
    blockNumber := some (UInt64.ofNat (before.receipts.length + 1))
    gasUsed := some 21000
    status := some 1 }
  otherReceipts : ∀ h, h ≠ crypto.hash encoded → after.receipts.get? h = before.receipts.get? h
  events : after.events = before.events ++ [.submitted (crypto.hash encoded)]

/-- Whoever the sender, the recipient and the coinbase are, an accepted submission moves money
between them and counts one nonce up. -/
theorem accepted_transferred {h : Hash}
    (accepted : (node crypto).answer (.submit encoded) m = (.ok h, m')) :
    h = crypto.hash encoded ∧ ∃ t, Transferred crypto encoded t m m' := by
  obtain ⟨hash, ledger, hsubmit, rfl⟩ := submit_eq_ok (reachable_of_ok accepted)
  obtain ⟨t, decoded, moved, context⟩ := Ledger.moved_of_submit hsubmit
  subst hash
  refine ⟨rfl, t, decoded, Ledger.total_of_moved moved, ?otherBalances, ⟨?counted, ?nonce⟩,
    ?otherNonces, ?codes, ?slots, context, ?receipt, ?otherReceipts, rfl⟩
  case otherBalances =>
    intro a hsender hrecipient hcoinbase
    exact BitVec.eq_of_toNat_eq (moved.balance_ne hsender hrecipient hcoinbase)
  case counted => exact BitVec.eq_of_toNat_eq moved.counted
  case nonce =>
    have hnonce := congrFun moved.nonce t.sender
    rwa [Function.update_self] at hnonce
  case otherNonces =>
    intro a hsender
    have hnonce := congrFun moved.nonce a
    rw [Function.update_of_ne hsender] at hnonce
    exact BitVec.eq_of_toNat_eq hnonce
  case codes => exact congrFun moved.code
  case slots =>
    intro a key
    have hslot := congrFun (congrFun moved.slot a) (Word.ofHash key)
    rw [Ledger.slot_eq_of_world hslot, Ledger.world, Word.toHash_ofHash, Word.toHash_ofHash]
  case receipt => exact Table.get?_set_self _ _ _
  case otherReceipts =>
    intro h hne
    exact Table.get?_set_ne _ _ (Ne.symm hne)

/-! ### A payment to oneself -/

namespace Solo

open Payment (payer)

/-- The payer pays five units to itself, at a price of ten and with this nonce. -/
def payment (nonce : Bytes) : Bytes :=
  Rlp.encodeList ([nonce, [10], [], payer.bytes, [5], [], [37], [], []].map Rlp.encodeString)

/-- The payer is also the coinbase, and the base fee is seven. -/
def before : InMemory :=
  { fresh 2 with ledger := { Ledger.empty with
      entries := [(payer, ⟨210005, 0, [], []⟩)]
      coinbase := payer
      baseFee := 7 } }

def after : InMemory := ((node Payment.crypto).answer (.submit (payment [])) before).2

end Solo

open Solo in
theorem accepted_transferred_solo :
    (node Payment.crypto).answer (.submit (payment [])) before =
      (.ok (Payment.crypto.hash (payment [])), after) ∧
    (∃ t, Transferred Payment.crypto (payment []) t before after) ∧
    before.ledger.total = 210005 ∧ after.ledger.total = 63005 := by
  have accepted : (node Payment.crypto).answer (.submit (payment [])) before =
      (.ok (Payment.crypto.hash (payment [])), after) := by rfl
  exact ⟨accepted, (accepted_transferred accepted).2, by decide +kernel, by decide +kernel⟩

/-! ### Refused submissions -/

/-- A node after a refused submission next to the node before. -/
structure Unmoved (crypto : Crypto) (encoded : Bytes) (before after : InMemory) : Prop where
  /-- Every query, that of a receipt included, is answered as before. -/
  answers : ∀ c : Call, (c.isQuery ∨ ∃ h, c = .receipt h) →
    ((node crypto).answer c after).1 = ((node crypto).answer c before).1
  receipts : after.receipts = before.receipts
  events : after.events = before.events
  pendingPolls : after.pendingPolls = before.pendingPolls
  remainingPolls : after.remainingPolls = before.remainingPolls
  context : after.ledger.context = before.ledger.context
  /-- At most the sender has an entry now, and the entry is empty. -/
  accounts : after.ledger.entries = before.ledger.entries ∨
    ∃ t, Transfer.decode crypto encoded = .ok t ∧ before.ledger.entries.get? t.sender = none ∧
      after.ledger.entries = before.ledger.entries ++ [(t.sender, .empty)]

/-- Entries that are read alike are all that the answer to a query needs. -/
theorem answer_of_entry {l : Ledger} (h : ∀ a, l.entry a = m.ledger.entry a) {c : Call}
    (hc : c.isQuery ∨ ∃ h, c = .receipt h) :
    ((node crypto).answer c { m with ledger := l }).1 = ((node crypto).answer c m).1 := by
  have hreachable : (reachable crypto c { m with ledger := l }).1 = (reachable crypto c m).1 := by
    rcases hc with hc | ⟨hash, rfl⟩
    · cases c with
      | balance a => exact congrArg (fun e => Except.ok e.balance) (h a)
      | transactionCount a => exact congrArg (fun e => Except.ok e.nonce) (h a)
      | code a => exact congrArg (fun e => Except.ok e.code) (h a)
      | storage a key => exact congrArg (fun e => Except.ok (e.slot key)) (h a)
      | _ => cases hc
    · simp only [reachable, receipt]
      split
      · rfl
      · cases m.receipts.get? hash <;> rfl
  simp only [node]
  split
  · rfl
  · exact hreachable

theorem unmoved_of_ledger {l : Ledger} (h : l = m.ledger ∨
      ∃ t, Transfer.decode crypto encoded = .ok t ∧ l = m.ledger.update t.sender id) :
    Unmoved crypto encoded m { m with ledger := l } := by
  have hentry (a : Address) : l.entry a = m.ledger.entry a := by
    rcases h with rfl | ⟨t, -, rfl⟩
    · rfl
    · exact m.ledger.entry_update_id t.sender a
  refine ⟨fun c hc => answer_of_entry hentry hc, rfl, rfl, rfl, rfl, ?context, ?accounts⟩
  case context => rcases h with rfl | ⟨t, -, rfl⟩ <;> rfl
  case accounts =>
    rcases h with rfl | ⟨t, ht, rfl⟩
    · exact .inl rfl
    · rcases m.ledger.update_id t.sender with hsame | ⟨hnew, hadded⟩
      · exact .inl (congrArg Ledger.entries hsame)
      · exact .inr ⟨t, ht, hnew, congrArg Ledger.entries hadded⟩

/-- A refusal is found out before anything that shows is written. -/
theorem refused_unmoved {e : Error}
    (refused : (node crypto).answer (.submit encoded) m = (.error (.failed e), m')) :
    Unmoved crypto encoded m m' := by
  by_cases hu : m.unreachable = true
  · rw [answer_of_unreachable hu] at refused
    cases refused
    exact unmoved_of_ledger (.inl rfl)
  · rw [answer_of_reachable (by simpa using hu)] at refused
    obtain ⟨r, ledger, hsubmit, rfl⟩ := submit_eq_failed refused
    exact unmoved_of_ledger (Ledger.eq_of_submit_refused hsubmit)

open Solo in
/-- The nonce is too high, and nobody has heard of the payer. -/
theorem refused_unmoved_stranger : ∃ after,
    (node Payment.crypto).answer (.submit (payment [1])) (fresh 2) =
      (.error (.failed (.node "eth_sendRawTransaction" "nonce too low: 0 != 1")), after) ∧
    Unmoved Payment.crypto (payment [1]) (fresh 2) after ∧
    after.ledger.entries = [(Payment.payer, .empty)] := by
  have refused : (node Payment.crypto).answer (.submit (payment [1])) (fresh 2) =
      (.error (.failed (.node "eth_sendRawTransaction" "nonce too low: 0 != 1")),
        ((node Payment.crypto).answer (.submit (payment [1])) (fresh 2)).2) := by rfl
  exact ⟨_, refused, refused_unmoved refused, by decide +kernel⟩

end VectorReplay.InMemory
