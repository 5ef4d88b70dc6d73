import VectorReplay.Ledger.Transfer
import VectorReplay.Node

/-!
A node that keeps everything in memory. Receipts are handed out after a number of polls; an
unreachable node refuses every call.
-/
namespace VectorReplay

namespace InMemory

/-- What a node records of its calls. -/
inductive Event
  | administrative (method : String)
  | submitted (transaction : Hash)
  | confirmed (transaction : Hash)
deriving DecidableEq

end InMemory

structure InMemory where
  ledger : Ledger
  receipts : Table Hash Receipt
  events : List InMemory.Event
  /-- How often a receipt is pending after each submission. -/
  pendingPolls : Nat
  /-- How often the next receipt is still pending. -/
  remainingPolls : Nat
  unreachable : Bool
deriving DecidableEq

namespace InMemory

def fresh (pendingPolls : Nat) : InMemory where
  ledger := .empty
  receipts := []
  events := []
  pendingPolls
  remainingPolls := 0
  unreachable := false

def offline : InMemory := { fresh 0 with unreachable := true }

/-- Polls that are enough for any receipt. -/
def patience (m : InMemory) : Nat := m.pendingPolls + 1

/-- An administrative call changes the ledger and is recorded. -/
def administer (c : Call) (f : Ledger → Ledger) (m : InMemory) : Except Fault Unit × InMemory :=
  (.ok (), { m with
    ledger := f m.ledger
    events := m.events ++ [.administrative c.method] })

/-- The receipt of the next transaction: receipts are numbered from one. -/
def nextReceipt (m : InMemory) (transaction : Hash) : Receipt where
  transaction
  blockNumber := some (UInt64.ofNat (m.receipts.length + 1))
  gasUsed := some Transfer.gas
  status := some 1

/-- Executes a transaction; only success is recorded. -/
def submit (crypto : Crypto) (encoded : Bytes) (m : InMemory) : Except Fault Hash × InMemory :=
  match Ledger.submit crypto encoded m.ledger with
  | (.error (.refused r), ledger) =>
    (.error (.failed (.node (Call.submit encoded).method r.message)), { m with ledger })
  | (.error .aborted, ledger) => (.error .aborted, { m with ledger })
  | (.ok (), ledger) =>
    let h := crypto.hash encoded
    (.ok h, { m with
      ledger
      receipts := m.receipts.set h (m.nextReceipt h)
      remainingPolls := m.pendingPolls
      events := m.events ++ [.submitted h] })

/-- A pending poll is counted; a receipt that is handed out is recorded. -/
def receipt (h : Hash) (m : InMemory) : Except Fault (Option Receipt) × InMemory :=
  if 0 < m.remainingPolls then (.ok none, { m with remainingPolls := m.remainingPolls - 1 })
  else match m.receipts.get? h with
    | none => (.ok none, m)
    | some r => (.ok (some r), { m with events := m.events ++ [.confirmed h] })

/-- The answer of a node that can be reached. -/
def reachable (crypto : Crypto) : (c : Call) → InMemory → Except Fault c.Reply × InMemory
  | c@(.setCode a code), m => administer c (·.update a fun e => { e with code }) m
  | c@(.setBalance a balance), m => administer c (·.update a fun e => { e with balance }) m
  | c@(.setNonce a nonce), m => administer c (·.update a fun e => { e with nonce }) m
  | c@(.setStorage a key value), m =>
    administer c (·.update a fun e => { e with storage := e.storage.set key value }) m
  | c@(.setChainId chainId), m => administer c (fun l => { l with chainId := some chainId }) m
  | c@(.setCoinbase coinbase), m => administer c (fun l => { l with coinbase }) m
  | c@(.setNextBaseFee baseFee), m => administer c (fun l => { l with baseFee }) m
  | c@(.setGasLimit gasLimit), m => administer c (fun l => { l with gasLimit }) m
  | .balance a, m => (.ok (m.ledger.entry a).balance, m)
  | .transactionCount a, m => (.ok (m.ledger.entry a).nonce, m)
  | .code a, m => (.ok (m.ledger.entry a).code, m)
  | .storage a key, m => (.ok ((m.ledger.entry a).slot key), m)
  | .submit encoded, m => submit crypto encoded m
  | .receipt h, m => receipt h m

def node (crypto : Crypto) : Node InMemory where
  answer c m :=
    if m.unreachable then (.error (.failed (.node c.method "connection refused")), m)
    else reachable crypto c m

end InMemory

end VectorReplay
