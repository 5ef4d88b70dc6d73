import VectorReplay.Crypto
import VectorReplay.Hex.Basic

/-!
Addresses in mixed case: a letter is upper case where the hash of the lower-case text has a nibble
of at least eight.
-/
namespace VectorReplay.Checksum

/-- Nibble `i` of a byte string, high halves first. -/
def nibble (b : Bytes) (i : Nat) : Nat :=
  let x := (b.getD (i / 2) 0).toNat
  if i % 2 = 0 then x / 16 else x % 16

/-- Raises the letters of `s` as the nibbles from `i` on ask. -/
def raise (h : Bytes) (i : Nat) : List Char → List Char
  | [] => []
  | c :: rest => (if c.isAlpha && 8 ≤ nibble h i then c.toUpper else c) :: raise h (i + 1) rest

/-- The checksummed form of an address under any hash. -/
def text (hash : Bytes → Hash) (a : Address) : String :=
  let lower := Hex.digits a.bytes
  "0x" ++ String.ofList (raise (hash (Text.utf8 lower)).bytes 0 lower)

end VectorReplay.Checksum
