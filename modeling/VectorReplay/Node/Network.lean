import VectorReplay.Http

/-!
The network in front of a node: which hosts a connection is made to, and why others are not reached. It
stands in for the system's own, as a machine sees it that has no route to any other and asks no server
for names.
-/
namespace VectorReplay

/-- Where connections lead. The only name that is known is that of the machine itself. -/
inductive Network
  /-- No address can be reached. -/
  | unreachable
  /-- One port of the machine itself is served; its other ports refuse connections. -/
  | serving (port : Nat)
deriving DecidableEq, Repr

namespace Network

/-- Whether a name can be asked for: labels of letters, digits, hyphens and low lines. -/
def isKnowable (name : String) : Bool :=
  let labels := Text.pieces '.' name.toList
  let labels := if labels.getLast? = some [] then labels.dropLast else labels
  name.length < 255 && name.toList.head? ≠ some '-' &&
    (labels.all fun l => !l.isEmpty && l.length < 64 &&
      l.all fun c => c.isAlphanum || c = '-' || c = '_') || name = "."

/-- Addresses of version 4 are reached in the same way when they are written as ones of version 6. -/
def isMapped (groups : List Nat) : Bool :=
  groups.take 6 = [0, 0, 0, 0, 0, 0xFFFF]

/-- Why a host cannot be reached that is not served. -/
def absence : Url.Host → Http.ConnectError
  | .ipv4 _ => .unreachable
  | .ipv6 groups => if isMapped groups then .unreachable else .noAddress
  | .name s =>
    if s = "localhost" then .unreachable else if isKnowable s then .unknownName else .noName

def connectHost (n : Network) (port : Option Nat) (h : Url.Host) : Except Http.ConnectError Unit :=
  match n with
  | .unreachable => .error (absence h)
  | .serving p =>
    if !h.isLoopback then .error (absence h)
    else if port = some p then .ok ()
    else .error .refused

/-- Connections are made in the clear. -/
def connect (n : Network) (u : Url) : Except Http.ConnectError Unit :=
  if u.scheme = "http" then
    match u.host with
    | some h => n.connectHost u.target h
    | none => .error .unreachable
  else .error .encrypted

end Network

end VectorReplay
