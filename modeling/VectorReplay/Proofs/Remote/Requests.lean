import VectorReplay.Node.Remote
import VectorReplay.Proofs.Account.Document
import VectorReplay.Proofs.Json.Numbers

/-!
Requests carry their calls. The body of a request reads back as its number, its method and its
parameters, and a call reads back from its method and its parameters; a connection numbers what it
sends from one on, whatever it is answered.
-/
namespace VectorReplay

open Json (Value Decoder Record)

/-! ### Bodies -/

namespace Request

/-- The number of a request, or the number of a chain. -/
def natural : Value → Except Json.Error Nat
  | .number text =>
    if text.toList.all Char.isDigit then .ok (Json.natOfDigits text.toList)
    else .error .numberOutOfRange
  | v => .error (.invalidType v.found "a natural number")

structure Draft where
  version : Option String := none
  id : Option Nat := none
  method : Option String := none
  params : Option (List Value) := none

def record : Record Draft Request where
  title := "Request"
  fields := [
    .of "jsonrpc" false Draft.version (fun a d => { d with version := some a }) Decoder.string,
    .of "id" false Draft.id (fun a d => { d with id := some a })
      ((Decoder.value 0).andThen natural),
    .of "method" false Draft.method (fun a d => { d with method := some a }) Decoder.string,
    .of "params" false Draft.params (fun a d => { d with params := some a })
      (Decoder.list (Decoder.value 0))]
  blank := {}
  build d := do
    let id ← Json.required "id" d.id
    let method ← Json.required "method" d.method
    let params ← Json.required "params" d.params
    pure { id, method, params }

/-- Reads the body of a request; its parameters have no brackets. -/
def decode (body : String) : Except Json.Error Request :=
  record.decoder.decode body

theorem natural_toString (n : Nat) : natural (.number (toString n)) = .ok n := by
  have hdigits : (toString n).toList.all Char.isDigit = true := by
    rw [List.all_eq_true]
    exact fun c hc => Json.isDigit_of_mem_decimal hc
  rw [natural, if_pos hdigits, Json.natOfDigits_decimal]

/-- Parameters that read back as they are. -/
def Plain (v : Value) : Prop :=
  (Decoder.value 0).Reads v v ∧ v.IsOpened

theorem plain_text (s : String) : Plain (.text s) :=
  ⟨Decoder.reads_textValue s, Value.isOpened_text s⟩

theorem plain_number (n : Nat) : Plain (.number (toString n)) :=
  ⟨Decoder.reads_number n, Value.isOpened_number n⟩

theorem decode_body {r : Request} (h : ∀ v ∈ r.params, Plain v) : decode r.body = .ok r := by
  have hid : ((Decoder.value 0).andThen natural).Reads (.number (toString r.id)) r.id :=
    (Decoder.reads_number r.id).andThen (natural_toString r.id)
  have hparams : (Decoder.list (Decoder.value 0)).Reads (.list r.params) r.params := by
    have hlist := Decoder.reads_list (fun v hv => (h v hv).1) fun v hv => (h v hv).2
    rwa [List.map_id'] at hlist
  have hfolds : Json.Reader.Folds record.readMember record.blank
      [("jsonrpc", .text "2.0"), ("id", .number (toString r.id)), ("method", .text r.method),
        ("params", .list r.params)] ⟨some "2.0", some r.id, some r.method, some r.params⟩ := by
    refine .cons (Record.readMember_field rfl rfl (Decoder.reads_field (Decoder.reads_string _))) ?_
    refine .cons (Record.readMember_field rfl rfl (Decoder.reads_field hid)) ?_
    refine .cons (Record.readMember_field rfl rfl (Decoder.reads_field (Decoder.reads_string _))) ?_
    refine .cons (Record.readMember_field rfl rfl (Decoder.reads_field hparams)) ?_
    exact .nil _
  have hreads : record.decoder.Reads r.toValue r := Record.reads_object hfolds rfl
  exact hreads.decode

end Request

/-! ### Calls -/

namespace Call

theorem plain_params (c : Call) : ∀ v ∈ c.params, Request.Plain v := by
  cases c <;>
    simp only [params, params.latest, hexValue, wordValue, List.forall_mem_cons,
      Request.plain_text, Request.plain_number, true_and, List.not_mem_nil, false_implies,
      implies_true]

/-! What a parameter stands for. -/

def fixedOf (n : Nat) (v : Value) : Option (FixedBytes n) :=
  ((Json.HexText.fixed n).ofValue v).toOption

def bytesOf (v : Value) : Option Bytes :=
  (Json.HexText.bytes.ofValue v).toOption

def wordOf (v : Value) : Option Word :=
  (Json.HexText.integer.ofValue v).toOption

def chainIdOf (v : Value) : Option UInt64 := do
  let n ← (Request.natural v).toOption
  if n < UInt64.size then some (UInt64.ofNat n) else none

theorem fixedOf_hexValue {n : Nat} (b : FixedBytes n) : fixedOf n (hexValue b.bytes) = some b := by
  have hparse := Json.HexText.parseFixed_marked b
  simp only [fixedOf, hexValue, Json.HexText.fixed, Decoder.text, hparse]
  rfl

theorem bytesOf_hexValue (b : Bytes) : bytesOf (hexValue b) = some b := by
  have hparse := Json.HexText.parseBytes_marked b
  simp only [bytesOf, hexValue, Json.HexText.bytes, Decoder.text, hparse]
  rfl

theorem wordOf_wordValue (w : Word) : wordOf (wordValue w) = some w := by
  have hparse := Json.HexText.parseInteger_wordText w
  simp only [wordOf, wordValue, Json.HexText.integer, Decoder.andThen, Decoder.string, Decoder.text,
    hparse, bind, Except.bind]
  rfl

theorem chainIdOf_number (c : UInt64) : chainIdOf (.number (toString c.toNat)) = some c := by
  have hlt : c.toNat < UInt64.size := c.toNat_lt_size
  simp only [chainIdOf, Request.natural_toString, Except.toOption, Option.bind_eq_bind,
    Option.bind_some, if_pos hlt, UInt64.ofNat_toNat]

/-- The call that a method and parameters stand for. -/
def ofParts (method : String) (params : List Value) : Option Call :=
  match method, params with
  | "anvil_setCode", [a, b] => do some (.setCode (← fixedOf 20 a) (← bytesOf b))
  | "anvil_setBalance", [a, w] => do some (.setBalance (← fixedOf 20 a) (← wordOf w))
  | "anvil_setNonce", [a, w] => do some (.setNonce (← fixedOf 20 a) (← wordOf w))
  | "anvil_setStorageAt", [a, key, value] => do
    some (.setStorage (← fixedOf 20 a) (← fixedOf 32 key) (← fixedOf 32 value))
  | "anvil_setChainId", [c] => do some (.setChainId (← chainIdOf c))
  | "anvil_setCoinbase", [a] => do some (.setCoinbase (← fixedOf 20 a))
  | "anvil_setNextBlockBaseFeePerGas", [w] => do some (.setNextBaseFee (← wordOf w))
  | "evm_setBlockGasLimit", [w] => do some (.setGasLimit (← wordOf w))
  | "eth_getBalance", [a, .text "latest"] => do some (.balance (← fixedOf 20 a))
  | "eth_getTransactionCount", [a, .text "latest"] => do some (.transactionCount (← fixedOf 20 a))
  | "eth_getCode", [a, .text "latest"] => do some (.code (← fixedOf 20 a))
  | "eth_getStorageAt", [a, key, .text "latest"] => do
    some (.storage (← fixedOf 20 a) (← fixedOf 32 key))
  | "eth_sendRawTransaction", [encoded] => do some (.submit (← bytesOf encoded))
  | "eth_getTransactionReceipt", [h] => do some (.receipt (← fixedOf 32 h))
  | _, _ => none

theorem ofParts_parts (c : Call) : ofParts c.method c.params = some c := by
  cases c <;> unfold ofParts <;>
    simp only [method, params, params.latest, fixedOf_hexValue, bytesOf_hexValue, wordOf_wordValue,
      chainIdOf_number, Option.bind_eq_bind, Option.bind_some]

/-- The call in the body of a request. -/
def ofBody (body : String) : Option Call := do
  let r ← (Request.decode body).toOption
  ofParts r.method r.params

theorem ofBody_body (id : Nat) (c : Call) :
    ofBody (Request.body ⟨id, c.method, c.params⟩) = some c := by
  have hdecode : Request.decode (Request.body ⟨id, c.method, c.params⟩) =
      .ok ⟨id, c.method, c.params⟩ :=
    Request.decode_body c.plain_params
  rw [ofBody, hdecode]
  exact c.ofParts_parts

/-- A call is known by its method and its parameters. -/
theorem eq_of_parts {c c' : Call} (hmethod : c.method = c'.method) (hparams : c.params = c'.params) :
    c = c' := by
  have hparts := c.ofParts_parts
  rw [hmethod, hparams, c'.ofParts_parts] at hparts
  exact (Option.some.inj hparts).symm

end Call

/-! ### Connections -/

/-- The same connection with a log of what is sent. -/
def Transport.logged {ω : Type} (t : Transport ω) : Transport (ω × List Request) where
  post r s :=
    let (reply, world) := t.post r s.1
    (reply, (world, s.2 ++ [r]))

namespace Remote

variable {ω : Type} (t : Transport ω)

/-- A connection after calls one after the other, whatever each was answered. -/
def afterCalls (calls : List Call) (r : Remote ω) : Remote ω :=
  calls.foldl (fun r c => ((node t).answer c r).2) r

/-- What a connection sends for itself and for calls one after the other. -/
def sent (world : ω) (calls : List Call) : List Request :=
  (afterCalls t.logged calls (connect t.logged (world, [])).2).world.2

/-- A log changes nothing else, and one exchange adds one request to it. -/
theorem exchange_logged {α : Type} (method : String) (params : List Value)
    (decode : Value → Except Json.Error α) (id : Nat) (world : ω) (log : List Request) :
    exchange t.logged method params decode ⟨id, (world, log)⟩ =
      ((exchange t method params decode ⟨id, world⟩).1, ⟨id + 1,
        ((exchange t method params decode ⟨id, world⟩).2.world, log ++ [⟨id, method, params⟩])⟩) :=
  rfl

/-- The requests of calls from a number on. -/
def requests : (id : Nat) → List Call → List Request
  | _, [] => []
  | id, c :: calls => ⟨id, c.method, c.params⟩ :: requests (id + 1) calls

theorem log_afterCalls (calls : List Call) (id : Nat) (world : ω) (log : List Request) :
    (afterCalls t.logged calls ⟨id, (world, log)⟩).world.2 = log ++ requests id calls := by
  induction calls generalizing id world log with
  | nil => exact (List.append_nil log).symm
  | cons c calls ih =>
    have hstep : (node t.logged).answer c ⟨id, (world, log)⟩ = _ :=
      exchange_logged t c.method c.params c.decodeReply id world log
    rw [afterCalls, List.foldl_cons, hstep]
    exact (ih _ _ _).trans (List.append_assoc _ _ _)

theorem sent_eq (world : ω) (calls : List Call) :
    sent t world calls = ⟨1, probe, []⟩ :: requests 2 calls :=
  log_afterCalls t calls 2 _ _

/-- What does not depend on the number of a request depends on its call alone. -/
theorem map_requests {γ : Type} (f : Request → γ) (g : Call → γ)
    (h : ∀ id c, f ⟨id, c.method, c.params⟩ = g c) (id : Nat) (calls : List Call) :
    (requests id calls).map f = calls.map g := by
  induction calls generalizing id with
  | nil => rfl
  | cons c calls ih => rw [requests, List.map_cons, h, ih, List.map_cons]

theorem ids_requests (id : Nat) (calls : List Call) :
    (requests id calls).map Request.id = List.range' id calls.length := by
  induction calls generalizing id with
  | nil => rfl
  | cons c calls ih => rw [requests, List.map_cons, ih, List.length_cons, List.range'_succ]

theorem decode_requests {id : Nat} {calls : List Call} {r : Request} (h : r ∈ requests id calls) :
    Request.decode r.body = .ok r := by
  induction calls generalizing id with
  | nil => cases h
  | cons c calls ih =>
    rcases List.mem_cons.mp h with rfl | h
    · exact Request.decode_body c.plain_params
    · exact ih h

/-- Requests that carry calls: after the one that opens the connection there is one for every call. They
are numbered from one on without a gap, each reads back from its body, and so does its call. -/
structure Carries (rs : List Request) (calls : List Call) : Prop where
  parts : rs.map (fun r => (r.method, r.params)) =
    (probe, []) :: calls.map fun c => (c.method, c.params)
  ids : rs.map Request.id = List.range' 1 (calls.length + 1)
  bodies : ∀ r ∈ rs, Request.decode r.body = .ok r
  calls : rs.tail.map (fun r => Call.ofBody r.body) = calls.map some

/-- What a connection sends carries the calls that are made on it, whatever they are answered, and no
two different calls have the same method and the same parameters. -/
theorem sent_carries (world : ω) (calls : List Call) :
    Carries (sent t world calls) calls ∧
      ∀ c c' : Call, c.method = c'.method → c.params = c'.params → c = c' := by
  have hsent := sent_eq t world calls
  have hcalls : (requests 2 calls).map (fun r => Call.ofBody r.body) = calls.map some :=
    map_requests (fun r => Call.ofBody r.body) some Call.ofBody_body 2 calls
  have hparts : (requests 2 calls).map (fun r => (r.method, r.params)) =
      calls.map fun c => (c.method, c.params) :=
    map_requests (fun r => (r.method, r.params)) _ (fun _ _ => rfl) 2 calls
  refine ⟨?_, fun c c' => Call.eq_of_parts⟩
  rw [hsent]
  exact {
    parts := by rw [List.map_cons, hparts]
    ids := by rw [List.map_cons, ids_requests, List.range'_succ]
    bodies := by
      intro r hr
      rcases List.mem_cons.mp hr with rfl | hr
      · exact Request.decode_body fun v hv => nomatch hv
      · exact decode_requests hr
    calls := hcalls }

end Remote

end VectorReplay
