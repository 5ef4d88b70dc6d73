import VectorReplay.Hex.Digit
import VectorReplay.Text.Quoted
import VectorReplay.Text.Utf8

/-!
Byte strings in hexadecimal. Reading counts in UTF-8 bytes: an odd number of them is reported before
any wrong digit, and a wrong digit with its position.
-/
namespace VectorReplay.Hex

inductive Error
  | oddLength
  | tooLong
  | invalidCharacter (byte : UInt8) (position : Nat)
deriving DecidableEq, Repr

def Error.message : Error → String
  | .oddLength => "Odd number of digits"
  | .tooLong => "Invalid string length"
  | .invalidCharacter byte position =>
    "Invalid character " ++ Text.quoteChar (Char.ofNat byte.toNat) ++ " at position " ++
      toString position

def digits (b : Bytes) : List Char :=
  b.flatMap fun x => [digit (x.toNat / 16), digit (x.toNat % 16)]

def encode (b : Bytes) : String :=
  String.ofList (digits b)

/-- The lower-case form behind `0x`. -/
def marked (b : Bytes) : String :=
  "0x" ++ encode b

/-- Reads pairs of digits; `i` is the position of the first. -/
def pairs (i : Nat) : Bytes → Except Error Bytes
  | [] => .ok []
  | [_] => .error .oddLength
  | a :: b :: rest =>
    match value? a, value? b with
    | none, _ => .error (.invalidCharacter a i)
    | some _, none => .error (.invalidCharacter b (i + 1))
    | some x, some y => do
      let bytes ← pairs (i + 2) rest
      pure (UInt8.ofNat (16 * x + y) :: bytes)

def decodeBytes (b : Bytes) : Except Error Bytes :=
  if b.length % 2 = 1 then .error .oddLength else pairs 0 b

def decode (s : String) : Except Error Bytes :=
  decodeBytes (Text.utf8 s.toList)

/-- Drops one leading `0x` or `0X`. -/
def unmark : List Char → List Char
  | '0' :: 'x' :: rest => rest
  | '0' :: 'X' :: rest => rest
  | s => s

def stripMark (s : String) : String :=
  String.ofList (unmark s.toList)

end VectorReplay.Hex
