import VectorReplay.Node.Network
import VectorReplay.Node.Remote
import VectorReplay.Table

/-!
An endpoint that answers from a script, behind a network. The script has a list of replies for each
method; the last one repeats. It stands in for a node that is reached over the network: what holds of
connections is said of any transport.
-/
namespace VectorReplay

structure Endpoint where
  replies : Table String (List Http.Reply)
  /-- The bodies of the requests that arrived. -/
  received : List String

namespace Endpoint

def scripted (replies : Table String (List Http.Reply)) : Endpoint := ⟨replies, []⟩

/-- The reply to a method without a script. -/
def standard (method : String) : Http.Reply :=
  ⟨200, if method = Remote.probe then "\x7b\"result\":\"fake\"\x7d" else "\x7b\"result\":true\x7d"⟩

/-- Takes the next reply from a list; the last one stays. -/
def next (method : String) : List Http.Reply → Http.Reply × List Http.Reply
  | [] => (standard method, [])
  | [r] => (r, [r])
  | r :: rest => (r, rest)

def serve (request : Request) (e : Endpoint) : Http.Reply × Endpoint :=
  let (reply, rest) := next request.method ((e.replies.get? request.method).getD [])
  (reply, {
    replies := e.replies.set request.method rest
    received := e.received ++ [request.body] })

/-- Polls that are enough to see every scripted receipt. -/
def patience (e : Endpoint) : Nat :=
  ((e.replies.get? (Call.receipt (FixedBytes.zero 32)).method).getD []).length + 1

/-- Posts to an address behind a network. -/
def transport (network : Network) (url : String) : Transport Endpoint where
  post request e :=
    match Http.address url with
    | .error f => (.error f, e)
    | .ok u =>
      match network.connect u with
      | .error c => (.error (.connect u c), e)
      | .ok () =>
        let (reply, e) := e.serve request
        (reply.text u, e)

end Endpoint

end VectorReplay
