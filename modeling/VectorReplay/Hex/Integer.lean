import VectorReplay.Hex.Basic
import VectorReplay.Word

/-!
256-bit integers in hexadecimal with any number of leading zeros.
-/
namespace VectorReplay.Hex

/-- The digits that count: one mark and all leading zeros are dropped. -/
def significant (s : List Char) : List Char :=
  (unmark s).dropWhile (· = '0')

/-- An odd number of digits is padded with one zero in front. -/
def evened (b : Bytes) : Bytes :=
  if b.length % 2 = 1 then 48 :: b else b

def integerOfDigits (b : Bytes) : Except Error Word :=
  if 64 < b.length then .error .tooLong
  else do
    let bytes ← decodeBytes (evened b)
    pure (Word.ofBytes bytes)

/-- Reads a hexadecimal integer; the message repeats the text. -/
def parseWord (s : String) : Except String Word :=
  match integerOfDigits (Text.utf8 (significant s.toList)) with
  | .ok w => .ok w
  | .error e => .error ("invalid hex integer `" ++ s ++ "`: " ++ e.message)

/-- The shortest form behind `0x`; zero is `0x0`. -/
def wordText (w : Word) : String :=
  "0x" ++ String.ofList (minimal w.toNat)

end VectorReplay.Hex
