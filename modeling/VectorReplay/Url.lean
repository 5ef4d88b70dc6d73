import VectorReplay.Url.Authority
import VectorReplay.Url.Path

/-!
Addresses: a scheme, an authority where the scheme has one, and a path with what is asked of it. How the
text behind a scheme is read hangs on the scheme: that of a network, that of files, or any other.
-/
namespace VectorReplay

structure Url where
  scheme : String
  authority : Option Url.Authority
  /-- The path with what is asked of it. -/
  path : String
deriving DecidableEq, Repr

namespace Url

def text (u : Url) : String :=
  u.scheme ++ ":" ++ (u.authority.elim "" fun a => "//" ++ a.text) ++ u.path

def host (u : Url) : Option Host :=
  u.authority.bind (·.host)

/-! ### Schemes -/

/-- What a scheme is good for. -/
inductive Family
  /-- The port that goes without saying. -/
  | network (port : Nat)
  | files
  | other
deriving DecidableEq, Repr

def family : String → Family
  | "http" | "ws" => .network 80
  | "https" | "wss" => .network 443
  | "ftp" => .network 21
  | "file" => .files
  | _ => .other

/-- Only these schemes carry requests. -/
def isHttp (u : Url) : Bool :=
  u.host.isSome && (u.scheme = "http" || u.scheme = "https")

/-- The port that a connection goes to. -/
def target (u : Url) : Option Nat :=
  u.authority.bind (·.port) <|>
    match family u.scheme with
    | .network port => some port
    | _ => none

/-- An address that does not say who asks, as far as that can be read. -/
def anonymous (u : Url) : Url :=
  { u with authority := u.authority.map fun a =>
      if a.user.isReadable then { a with user := .none } else a }

def isSchemeChar (c : Char) : Bool :=
  c.isAlphanum || c = '+' || c = '-' || c = '.'

/-- The scheme in lower case, and what follows its colon. -/
def takeScheme (s : List Char) : Option (String × List Char) :=
  match s with
  | [] => none
  | c :: _ =>
    if c.isAlpha then
      match s.dropWhile isSchemeChar with
      | ':' :: rest => some (String.ofList ((s.takeWhile isSchemeChar).map Char.toLower), rest)
      | _ => none
    else none

/-! ### Paths with what is asked of them -/

/-- The text before the first of the marks, and the text from it on. -/
def splitAt (isMark : Char → Bool) (s : List Char) : List Char × List Char :=
  (s.takeWhile fun c => !isMark c, s.dropWhile fun c => !isMark c)

/-- A path, read by `path`, with its query, which is encoded as `part`, and its fragment. -/
def readPath (path : List Char → List Char) (part : Part) (s : List Char) : String :=
  let (s, fragment) := splitAt (· = '#') s
  let (p, asked) := splitAt (· = '?') s
  String.ofList (path p ++ asked.take 1 ++ encode part (asked.drop 1) ++ fragment.take 1 ++
    encode .fragment (fragment.drop 1))

def isSlash (c : Char) : Bool := c = '/' || c = '\\'

/-- A backslash is as good as a slash in the paths of a network and of files. -/
def straighten (s : List Char) : List Char :=
  s.map fun c => if isSlash c then '/' else c

/-! ### The families -/

def endsAuthority (c : Char) : Bool := c = '/' || c = '?' || c = '#'

/-- Any number of slashes may stand in front of an authority. -/
def readNetwork (scheme : String) (implied : Nat) (s : List Char) : Except UrlError Url := do
  let (authority, rest) := splitAt (fun c => isSlash c || endsAuthority c) (s.dropWhile isSlash)
  let authority ← Authority.read (some implied) authority
  pure { scheme, authority, path := readPath (Path.rooted ∘ straighten) .query rest }

/-- The path of a file starts with one slash. -/
def filePath (s : List Char) : List Char :=
  '/' :: (Path.rooted (straighten s)).dropWhile (· = '/')

/-- The host of files, if it is not this machine, and what follows it. A drive is no host. -/
def takeFileHost : List Char → Except UrlError (Option Host × List Char)
  | a :: b :: rest =>
    if isSlash a && isSlash b then
      let (host, path) := splitAt (fun c => isSlash c || endsAuthority c) rest
      if host.isEmpty || Path.isDrive host then .ok (none, rest)
      else (Host.parse host).map fun h => (if h = .name "localhost" then none else some h, path)
    else .ok (none, a :: b :: rest)
  | s => .ok (none, s)

def readFile (s : List Char) : Except UrlError Url := do
  let (host, rest) ← takeFileHost s
  pure { scheme := "file", authority := some { host }, path := readPath filePath .query rest }

/-- A path behind an authority may be empty; one without an authority does not look like one. -/
def readOther (scheme : String) (s : List Char) : Except UrlError Url :=
  match s with
  | '/' :: '/' :: rest => do
    let (authority, rest) := splitAt endsAuthority rest
    let (authority, left) ← Authority.readWhole rest.isEmpty authority
    let path := readPath (fun p => if p.isEmpty then [] else Path.rooted p) .plainQuery (left ++ rest)
    pure { scheme, authority, path }
  | '/' :: _ =>
    let path := readPath (fun p =>
      let p := Path.rooted p
      if p.take 2 = ['/', '/'] then '/' :: '.' :: p else p) .plainQuery s
    .ok { scheme, authority := none, path }
  | _ => .ok { scheme, authority := none, path := readPath (encode .whole) .plainQuery s }

/-! ### Reading -/

def isBlank (c : Char) : Bool := c.toNat ≤ 0x20

def isLineBreak (c : Char) : Bool := c = '\t' || c = '\n' || c = '\r'

/-- Blanks at both ends and line breaks anywhere are passed over. -/
def clean (s : List Char) : List Char :=
  (((s.dropWhile isBlank).reverse.dropWhile isBlank).reverse).filter fun c => !isLineBreak c

def parse (s : String) : Except UrlError Url :=
  match takeScheme (clean s.toList) with
  | none => .error .relative
  | some (scheme, rest) =>
    match family scheme with
    | .network port => readNetwork scheme port rest
    | .files => readFile rest
    | .other => readOther scheme rest

end Url

end VectorReplay
