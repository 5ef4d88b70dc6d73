import VectorReplay.Hex.Basic

/-!
Hexadecimal as nodes write it: an optional `0x`, blanks between digits, and an odd first digit that
stands alone. The length is checked before any digit is read.
-/
namespace VectorReplay.Hex.Loose

/-- How many bytes a text must or may hold. -/
inductive Expected
  | exactly (n : Nat)
  | upTo (n : Nat)
deriving DecidableEq

def Expected.admits : Expected → Nat → Bool
  | .exactly n, k => k = 2 * n
  | .upTo n, k => 0 < k && k ≤ 2 * n

def Expected.describe : Expected → String
  | .exactly n =>
    "a (both 0x-prefixed or not) hex string or byte array containing " ++ toString n ++ " bytes"
  | .upTo n =>
    "a (both 0x-prefixed or not) hex string or byte array containing between (0; " ++
      toString n ++ "] bytes"

inductive Error
  | length (n : Nat)
  | character (byte : UInt8) (position : Nat)
deriving DecidableEq

def isBlank (b : UInt8) : Bool :=
  b = 32 || b = 9 || b = 13 || b = 10

/-- The digit values of a text, blanks left out; `i` is the position of the first byte. -/
def nibbles (i : Nat) : Bytes → Except Error (List Nat)
  | [] => .ok []
  | b :: rest =>
    if isBlank b then nibbles (i + 1) rest
    else match value? b with
      | none => .error (.character b i)
      | some x => do
        let xs ← nibbles (i + 1) rest
        pure (x :: xs)

/-- Two digits make a byte; a last digit without a partner is dropped. -/
def join : List Nat → Bytes
  | x :: y :: rest => UInt8.ofNat (16 * x + y) :: join rest
  | _ => []

/-- With an odd number of characters the first digit is a byte of its own. -/
def group (odd : Bool) : List Nat → Bytes
  | [] => []
  | x :: rest => if odd then UInt8.ofNat x :: join rest else join (x :: rest)

def unmark : List Char → List Char × Nat
  | '0' :: 'x' :: rest => (rest, 2)
  | s => (s, 0)

/-- The bytes of a text whose length is admitted. -/
def decode (expected : Expected) (s : String) : Except Error Bytes :=
  let (body, skipped) := unmark s.toList
  let b := Text.utf8 body
  if expected.admits b.length then do
    let xs ← nibbles skipped b
    pure (group (b.length % 2 = 1) xs)
  else .error (.length b.length)

end VectorReplay.Hex.Loose
