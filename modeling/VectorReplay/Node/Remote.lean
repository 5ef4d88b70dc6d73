import VectorReplay.Http
import VectorReplay.Json.HexText
import VectorReplay.Json.Record
import VectorReplay.Json.Write
import VectorReplay.Node

/-!
Nodes behind a connection: every call is one request, numbered in the order of the calls, and its
answer is a result or an error object. The connection is any state that takes requests.
-/
namespace VectorReplay

open Json (Value Decoder Record)

/-! ### Requests -/

structure Request where
  /-- Taken to be below two to the 64, where numbers of 64 bits would start again. -/
  id : Nat
  method : String
  params : List Value

namespace Request

def toValue (r : Request) : Value :=
  .object [
    ("jsonrpc", .text "2.0"),
    ("id", .number (toString r.id)),
    ("method", .text r.method),
    ("params", .list r.params)]

def body (r : Request) : String :=
  r.toValue.toText

end Request

namespace Call

def hexValue (b : Bytes) : Value := .text (Hex.marked b)

def wordValue (w : Word) : Value := .text (Hex.wordText w)

/-- The parameters of a remote call; queries ask for the latest state. -/
def params : Call → List Value
  | .setCode a b => [hexValue a.bytes, hexValue b]
  | .setBalance a w => [hexValue a.bytes, wordValue w]
  | .setNonce a w => [hexValue a.bytes, wordValue w]
  | .setStorage a key value => [hexValue a.bytes, hexValue key.bytes, hexValue value.bytes]
  | .setChainId c => [.number (toString c.toNat)]
  | .setCoinbase a => [hexValue a.bytes]
  | .setNextBaseFee w => [wordValue w]
  | .setGasLimit w => [wordValue w]
  | .balance a => [hexValue a.bytes, latest]
  | .transactionCount a => [hexValue a.bytes, latest]
  | .code a => [hexValue a.bytes, latest]
  | .storage a key => [hexValue a.bytes, hexValue key.bytes, latest]
  | .submit encoded => [hexValue encoded]
  | .receipt h => [hexValue h.bytes]
where
  /-- The block that queries refer to. -/
  latest : Value := .text "latest"

/-- Decodes the result of a call. The result of an administrative call is read as a value and left
out. -/
def decodeReply : (c : Call) → Value → Except Json.Error c.Reply
  | .balance _, v | .transactionCount _, v => Json.HexText.quantity.ofValue v
  | .code _, v => Json.HexText.bytes.ofValue v
  | .storage _ _, v | .submit _, v => (Json.HexText.fixed 32).ofValue v
  | .receipt _, v => Receipt.decoder.nullable.ofValue v
  | .setCode .., v | .setBalance .., v | .setNonce .., v | .setStorage .., v | .setChainId _, v
  | .setCoinbase _, v | .setNextBaseFee _, v | .setGasLimit _, v => v.again.map fun _ => ()

end Call

/-! ### Answers -/

/-- What a node says of a call that it refuses. -/
structure Complaint where
  code : Int
  message : String
deriving DecidableEq

namespace Complaint

structure Draft where
  code : Option Int := none
  message : Option String := none

def record : Record Draft Complaint where
  title := "ResponseError"
  fields := [
    .of "code" false Draft.code (fun a d => { d with code := some a }) Decoder.int64,
    .of "message" false Draft.message (fun a d => { d with message := some a }) Decoder.string]
  blank := {}
  build d := do
    let code ← Json.required "code" d.code
    let message ← Json.required "message" d.message
    pure { code, message }

def text (c : Complaint) : String :=
  c.message ++ " (code " ++ toString c.code ++ ")"

end Complaint

structure Answer where
  result : Value
  error : Option Complaint

namespace Answer

structure Draft where
  result : Option Value := none
  error : Option (Option Complaint) := none

/-- A result that is missing is `null`; the answer's own brackets count against the depth. -/
def record : Record Draft Answer where
  title := "Response"
  fields := [
    .of "result" true Draft.result (fun a d => { d with result := some a })
      (Decoder.value (Json.depthLimit - 1)),
    .of "error" false Draft.error (fun a d => { d with error := some a })
      Complaint.record.decoder.nullable]
  blank := {}
  build d := .ok { result := d.result.getD .null, error := d.error.join }

/-- The result in the body of an answer, or what is wrong with it. An error object wins. -/
def read {α : Type} (decode : Value → Except Json.Error α) (body : String) : Except String α :=
  match record.decoder.decode body with
  | .error e => .error ("invalid response: " ++ e.message)
  | .ok answer =>
    match answer.error with
    | some c => .error c.text
    | none => (decode answer.result).mapError fun e => "invalid result: " ++ e.message

end Answer

/-! ### Connections -/

/-- Takes a request and gives back the body of its answer. -/
structure Transport (ω : Type) where
  post : Request → ω → Except Http.Failure String × ω

/-- A connection with the number of its next request. The numbers are not bounded; so many requests that
they pass 64 bits are never sent. -/
structure Remote (ω : Type) where
  nextId : Nat
  world : ω

namespace Remote

variable {ω : Type}

/-- Sends one request and reads its answer. -/
def exchange {α : Type} (t : Transport ω) (method : String) (params : List Value)
    (decode : Value → Except Json.Error α) (r : Remote ω) : Except Fault α × Remote ω :=
  let (reply, world) := t.post ⟨r.nextId, method, params⟩ r.world
  let result : Except String α :=
    match reply with
    | .error e => .error e.message
    | .ok body => Answer.read decode body
  (result.mapError fun reason => .failed (.node method reason), { nextId := r.nextId + 1, world })

def node (t : Transport ω) : Node (Remote ω) where
  answer c := exchange t c.method c.params c.decodeReply

/-- The first request of a connection asks for the version of the node. -/
def probe : String := "web3_clientVersion"

/-- Opens a connection. -/
def connect (t : Transport ω) (world : ω) : Except Fault Unit × Remote ω :=
  let (version, r) := exchange t probe [] Decoder.string.ofValue ⟨1, world⟩
  (version.map fun _ => (), r)

end Remote

end VectorReplay
