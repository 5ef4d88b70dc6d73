import VectorReplay.Url.Host

/-!
Authorities: who asks, the host that is asked, and its port.
-/
namespace VectorReplay.Url

/-! ### Users -/

/-- The name and the password of a user, percent-encoded. -/
structure User where
  name : List Char
  password : List Char
deriving DecidableEq, Repr

namespace User

def none : User := ⟨[], []⟩

def text (u : User) : List Char :=
  if u = none then []
  else u.name ++ (if u.password.isEmpty then [] else ':' :: u.password) ++ ['@']

/-- The password stands behind the first colon. -/
def read (s : List Char) : User :=
  ⟨encode .user (s.takeWhile (· ≠ ':')), encode .user ((s.dropWhile (· ≠ ':')).drop 1)⟩

/-- Whether a request can say who asks: the name is a text, and there is a name or a password that is a
text. -/
def isReadable (u : User) : Bool :=
  (decodeText? u.name).isSome &&
    (!u.name.isEmpty || (!u.password.isEmpty && (decodeText? u.password).isSome))

end User

/-! ### Authorities -/

structure Authority where
  user : User := .none
  host : Option Url.Host := none
  port : Option Nat := none
deriving DecidableEq, Repr

namespace Authority

def text (a : Authority) : String :=
  String.ofList a.user.text ++ a.host.elim "" Url.Host.text ++
    a.port.elim "" fun p => ":" ++ toString p

/-- The host with what follows it; a colon inside brackets belongs to the host. -/
def splitHost : (inside : Bool) → List Char → List Char × List Char
  | _, [] => ([], [])
  | inside, c :: r =>
    if c = ':' && !inside then ([], c :: r)
    else
      let (host, rest) := splitHost (c = '[' || (inside && c ≠ ']')) r
      (c :: host, rest)

/-- What stands before the last `@`, if there is one, and what stands behind it. -/
def splitUser (s : List Char) : Option (List Char) × List Char :=
  if s.contains '@' then
    (some ((s.reverse.dropWhile (· ≠ '@')).drop 1).reverse, (s.reverse.takeWhile (· ≠ '@')).reverse)
  else (none, s)

/-- The port in a text of digits; an empty one and the one that is implied are left out. -/
def readPort (implied : Option Nat) (s : List Char) : Except UrlError (Option Nat) :=
  if s.all Char.isDigit then
    let n := s.foldl (fun n c => 10 * n + (c.toNat - 48)) 0
    if 65535 < n then .error .invalidPort
    else .ok (if s.isEmpty || implied = some n then none else some n)
  else .error .invalidPort

/-- An authority under a scheme that is known; there is always a host. -/
def read (implied : Option Nat) (s : List Char) : Except UrlError Authority := do
  let (user, s) := splitUser s
  let (host, port) := splitHost false s
  let host ← Host.parse host
  let port ← readPort implied (port.drop 1)
  pure { user := User.read (user.getD []), host, port }

/-- An authority under any other scheme, with what is left of it behind a backslash in its port. There
is a host wherever a user, a port or, behind an empty user, a path asks for one. -/
def readWhole (isLast : Bool) (s : List Char) : Except UrlError (Authority × List Char) := do
  let (user, s) := splitUser s
  let isAnonymous := user = some []
  let user := User.read (user.getD [])
  if isAnonymous && s.isEmpty && !isLast then throw .emptyHost
  let (host, port) := splitHost false s
  if host.isEmpty then
    if !port.isEmpty || user ≠ .none then throw .emptyHost
    pure ({}, [])
  else
    let host ← Host.parseWhole host
    let digits := (port.drop 1).takeWhile (· ≠ '\\')
    let port' ← readPort none digits
    pure ({ user, host, port := port' }, (port.drop 1).dropWhile (· ≠ '\\'))

end Authority

end VectorReplay.Url
