import VectorReplay.Error
import VectorReplay.Receipt
import VectorReplay.Report

/-!
Nodes: the calls that a run makes, what each one answers, and stages of a run that keep track of every
call and every report. A node is any state with an answer to every call.
-/
namespace VectorReplay

inductive Call
  | setCode (address : Address) (code : Bytes)
  | setBalance (address : Address) (balance : Word)
  | setNonce (address : Address) (nonce : Word)
  | setStorage (address : Address) (key value : Hash)
  | setChainId (chainId : UInt64)
  | setCoinbase (address : Address)
  | setNextBaseFee (fee : Word)
  | setGasLimit (limit : Word)
  | balance (address : Address)
  | transactionCount (address : Address)
  | code (address : Address)
  | storage (address : Address) (key : Hash)
  | submit (encoded : Bytes)
  | receipt (transaction : Hash)
deriving DecidableEq

namespace Call

/-- What a call answers; a receipt may be pending. -/
def Reply : Call → Type
  | .balance _ | .transactionCount _ => Word
  | .code _ => Bytes
  | .storage _ _ | .submit _ => Hash
  | .receipt _ => Option Receipt
  | _ => Unit

/-- The name of the remote method. -/
def method : Call → String
  | .setCode .. => "anvil_setCode"
  | .setBalance .. => "anvil_setBalance"
  | .setNonce .. => "anvil_setNonce"
  | .setStorage .. => "anvil_setStorageAt"
  | .setChainId _ => "anvil_setChainId"
  | .setCoinbase _ => "anvil_setCoinbase"
  | .setNextBaseFee _ => "anvil_setNextBlockBaseFeePerGas"
  | .setGasLimit _ => "evm_setBlockGasLimit"
  | .balance _ => "eth_getBalance"
  | .transactionCount _ => "eth_getTransactionCount"
  | .code _ => "eth_getCode"
  | .storage .. => "eth_getStorageAt"
  | .submit _ => "eth_sendRawTransaction"
  | .receipt _ => "eth_getTransactionReceipt"

/-- Calls that prepare the state or the block. -/
def isAdministrative : Call → Bool
  | .setCode .. | .setBalance .. | .setNonce .. | .setStorage .. | .setChainId _ | .setCoinbase _
  | .setNextBaseFee _ | .setGasLimit _ => true
  | _ => false

end Call

/-- Why a run stops early. -/
inductive Fault
  | failed (e : Error)
  /-- Arithmetic left its range. -/
  | aborted
  /-- No receipt came within the patience of the run. -/
  | stalled
deriving DecidableEq

structure Node (σ : Type) where
  answer : (c : Call) → σ → Except Fault c.Reply × σ

/-- A call and its answer. -/
structure Exchange where
  call : Call
  reply : Except Fault call.Reply

/-- A run in progress: the node's state and what happened so far. -/
structure Run (σ : Type) where
  node : σ
  exchanges : List Exchange
  reports : List Report

def Run.start {σ : Type} (s : σ) : Run σ := ⟨s, [], []⟩

/-- A part of a run. A fault ends it; what happened before stays. -/
abbrev Stage (σ α : Type) := ExceptT Fault (StateM (Run σ)) α

namespace Stage

variable {σ α : Type}

def perform (node : Node σ) (c : Call) : Stage σ c.Reply := fun run =>
  let (reply, s) := node.answer c run.node
  (reply, { run with node := s, exchanges := run.exchanges ++ [⟨c, reply⟩] })

def report (level : Level) (text : String) : Stage σ Unit := fun run =>
  (.ok (), { run with reports := run.reports ++ [⟨level, text⟩] })

def fail (e : Error) : Stage σ α := throw (.failed e)

def abort : Stage σ α := throw .aborted

end Stage

end VectorReplay
