import VectorReplay.Url.Domain
import VectorReplay.Url.Percent

/-!
Hosts: numeric addresses of either version, and names. A host that ends in a number is an address of
version 4, whatever stands before. Under a scheme that is not known a name is taken as it stands.
-/
namespace VectorReplay

/-- Why a text is no address. -/
inductive UrlError
  | relative
  | emptyHost
  | invalidPort
  | invalidName
  | invalidCharacter
  | invalidIpv4
  | invalidIpv6
deriving DecidableEq, Repr

def UrlError.message : UrlError → String
  | .relative => "relative URL without a base"
  | .emptyHost => "empty host"
  | .invalidPort => "invalid port number"
  | .invalidName => "invalid international domain name"
  | .invalidCharacter => "invalid domain character"
  | .invalidIpv4 => "invalid IPv4 address"
  | .invalidIpv6 => "invalid IPv6 address"

/-- Where an address leads. -/
inductive Url.Host
  | name (s : String)
  | ipv4 (address : Nat)
  | ipv6 (groups : List Nat)
deriving DecidableEq, Repr

namespace Url.Host

/-! ### Version 4 -/

/-- The base that a number is written in, and its digits. -/
def base : List Char → Nat × List Char
  | '0' :: 'x' :: r => (16, r)
  | '0' :: c :: r => (8, c :: r)
  | s => (10, s)

def number? (s : List Char) : Option Nat :=
  if s.isEmpty then none
  else
    let (b, digits) := base s
    digits.foldlM (fun n c => do
      let d ← Hex.charValue? c
      if d < b then some (b * n + d) else none) 0

/-- The pieces of a numeric address; a dot at its end is passed over. -/
def parts (s : List Char) : List (List Char) :=
  match (Text.pieces '.' s).reverse with
  | [] :: p :: ps => (p :: ps).reverse
  | ps => ps.reverse

def endsInNumber (s : List Char) : Bool :=
  match (parts s).getLast? with
  | none => false
  | some p => (number? p).isSome || (!p.isEmpty && p.all Char.isDigit)

/-- The last number fills the bytes that those before it, one byte each, leave. -/
def ofNumbers? (ns : List Nat) : Option Nat :=
  match ns.reverse with
  | [] => none
  | last :: front =>
    let width := 8 * (4 - front.length)
    if 4 < ns.length || front.any (255 < ·) || 1 <<< width ≤ last then none
    else some ((front.reverse.foldl (256 * · + ·) 0) <<< width + last)

def ipv4? (s : List Char) : Option Nat :=
  (parts s).mapM number? >>= ofNumbers?

/-! ### Version 6 -/

/-- What stands before and after the first double colon. -/
def gap? : List Char → Option (List Char × List Char)
  | ':' :: ':' :: r => some ([], r)
  | c :: r => (gap? r).map fun (a, b) => (c :: a, b)
  | [] => none

def group? (s : List Char) : Option Nat :=
  if s.isEmpty || 4 < s.length then none
  else s.foldlM (fun n c => (Hex.charValue? c).map (16 * n + ·)) 0

/-- One byte of an address of version 4 at the end of one of version 6. -/
def byte? (s : List Char) : Option Nat :=
  if s.isEmpty || 3 < s.length || !s.all Char.isDigit || (s.head? = some '0' && 1 < s.length) then
    none
  else
    let n := s.foldl (fun n c => 10 * n + (c.toNat - 48)) 0
    if n < 256 then some n else none

/-- The groups of a piece; only the last piece may be of version 4. -/
def groupsOfPiece? (last : Bool) (s : List Char) : Option (List Nat) :=
  if last && s.contains '.' then
    match (Text.pieces '.' s).mapM byte? with
    | some [a, b, c, d] => some [256 * a + b, 256 * c + d]
    | _ => none
  else (group? s).map ([·])

def groupsOfPieces? (closing : Bool) : List (List Char) → Option (List Nat)
  | [] => some []
  | [p] => groupsOfPiece? closing p
  | p :: ps => do
    let g ← groupsOfPiece? false p
    let gs ← groupsOfPieces? closing ps
    pure (g ++ gs)

def groups? (closing : Bool) (s : List Char) : Option (List Nat) :=
  if s.isEmpty then some [] else groupsOfPieces? closing (Text.pieces ':' s)

/-- A double colon stands for one or more groups of zero. -/
def ipv6? (s : List Char) : Option (List Nat) :=
  match gap? s with
  | none => do
    let gs ← groups? true s
    if gs.length = 8 then some gs else none
  | some (front, back) => do
    let a ← groups? false front
    let b ← groups? true back
    if a.length + b.length < 8 then some (a ++ List.replicate (8 - (a.length + b.length)) 0 ++ b)
    else none

/-- Where the first of the longest runs of zeros starts, and its length; `i` is the position of the
first group. -/
def longestZeros (i : Nat) : List Nat → Nat × Nat
  | [] => (i, 0)
  | g :: gs =>
    let n := ((g :: gs).takeWhile (· = 0)).length
    let later := longestZeros (i + 1) gs
    if later.2 ≤ n then (i, n) else later

def joinGroups (gs : List Nat) : String :=
  ":".intercalate (gs.map fun g => String.ofList (Hex.minimal g))

/-- The longest run of two or more zeros is left out. -/
def ipv6Text (gs : List Nat) : String :=
  let (start, n) := longestZeros 0 gs
  if n < 2 then joinGroups gs
  else joinGroups (gs.take start) ++ "::" ++ joinGroups (gs.drop (start + n))

/-! ### All hosts -/

def text : Url.Host → String
  | .name s => s
  | .ipv4 a =>
    ".".intercalate ([a >>> 24, (a >>> 16) % 256, (a >>> 8) % 256, a % 256].map toString)
  | .ipv6 gs => "[" ++ ipv6Text gs ++ "]"

/-- An address of version 6 in brackets; nothing for what does not start with one. -/
def bracketed? : List Char → Option (Except UrlError Url.Host)
  | '[' :: r =>
    match if r.getLast? = some ']' then ipv6? r.dropLast else none with
    | some gs => some (.ok (.ipv6 gs))
    | none => some (.error .invalidIpv6)
  | _ => none

def parseName (s : List Char) : Except UrlError Url.Host :=
  match decodeText? s >>= Domain.toAscii? with
  | none => .error .invalidName
  | some [] => .error .emptyHost
  | some ascii =>
    if endsInNumber ascii then
      match ipv4? ascii with
      | some a => .ok (.ipv4 a)
      | none => .error .invalidIpv4
    else .ok (.name (String.ofList ascii))

/-- A host under a scheme that is known. -/
def parse (s : List Char) : Except UrlError Url.Host :=
  if s.isEmpty then .error .emptyHost else (bracketed? s).getD (parseName s)

/-- The characters that no host holds. -/
def reserved : List Char :=
  ['\x00', '\t', '\n', '\r', ' ', '#', '/', ':', '<', '>', '?', '@', '[', '\\', ']', '^', '|']

/-- A host under any other scheme. -/
def parseWhole (s : List Char) : Except UrlError Url.Host :=
  (bracketed? s).getD <|
    if s.any reserved.contains then .error .invalidCharacter
    else .ok (.name (String.ofList (encode .whole s)))

/-- Whether a host leads back to the same machine. -/
def isLoopback : Url.Host → Bool
  | .name s => s = "localhost"
  | .ipv4 a => a >>> 24 = 127
  | .ipv6 gs => gs = [0, 0, 0, 0, 0, 0, 0, 1]

end Url.Host

end VectorReplay
