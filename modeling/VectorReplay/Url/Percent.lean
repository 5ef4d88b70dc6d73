import VectorReplay.Hex.Digit
import VectorReplay.Text.Utf8

/-!
Percent-encoding: what an address cannot hold as it is stands byte by byte as `%` and two digits.
-/
namespace VectorReplay.Url

/-- The parts of an address that are encoded, each in its way. -/
inductive Part
  | user
  | path
  | query
  | fragment
  /-- The query of an address whose scheme is not known. -/
  | plainQuery
  /-- A host or a path that is not taken apart. -/
  | whole
deriving DecidableEq, Repr

/-- The printable characters of ASCII that a part does not hold. -/
def Part.reserved : Part → List Char
  | .user => [' ', '"', '<', '>', '`', '#', '?', '\x7b', '\x7d', '/', ':', ';', '=', '@', '[', '\\',
      ']', '^', '|']
  | .path => [' ', '"', '<', '>', '`', '#', '?', '\x7b', '\x7d']
  | .query => [' ', '"', '<', '>', '#', '\'']
  | .fragment => [' ', '"', '<', '>', '`']
  | .plainQuery => [' ', '"', '<', '>', '#']
  | .whole => []

/-- Whether a part holds a character as it is. -/
def Part.holds (p : Part) (c : Char) : Bool :=
  0x20 ≤ c.toNat && c.toNat < 0x7F && !p.reserved.contains c

def escape (b : UInt8) : List Char :=
  ['%', (Hex.digit (b.toNat / 16)).toUpper, (Hex.digit (b.toNat % 16)).toUpper]

def encode (p : Part) (s : List Char) : List Char :=
  s.flatMap fun c => if p.holds c then [c] else (Text.utf8 [c]).flatMap escape

/-- A `%` without two digits behind it stands for itself. -/
def decode : Bytes → Bytes
  | x :: a :: b :: rest =>
    match Hex.value? a, Hex.value? b with
    | some m, some n =>
      if x = 37 then UInt8.ofNat (16 * m + n) :: decode rest else x :: decode (a :: b :: rest)
    | _, _ => x :: decode (a :: b :: rest)
  | b => b

/-- The text that an encoded one stands for, if its bytes are a text. -/
def decodeText? (s : List Char) : Option (List Char) :=
  (Text.decode? (decode (Text.utf8 s))).map String.toList

end VectorReplay.Url
