import VectorReplay.Json.Decoder
import VectorReplay.Hex.Loose
import VectorReplay.Hex.Integer

/-!
Decoders of strings that hold hexadecimal: byte strings of a fixed length, bounded integers, integers
of any padding and plain byte strings.
-/
namespace VectorReplay.Json.HexText

def looseError (expected : Hex.Loose.Expected) : Hex.Loose.Error → Error
  | .length n => .invalidLength n expected.describe
  | .character byte position =>
    .rejected ("invalid hex character: " ++ String.singleton (Char.ofNat byte.toNat) ++ ", at " ++
      toString position)

def parseLoose (expected : Hex.Loose.Expected) (s : String) : Except Error Bytes :=
  (Hex.Loose.decode expected s).mapError (looseError expected)

/-- Bytes that are missing at the end are zero. -/
def padded (n : Nat) (b : Bytes) : FixedBytes n :=
  ⟨(b ++ List.replicate n 0).take n, by simp⟩

def parseFixed (n : Nat) (s : String) : Except Error (FixedBytes n) :=
  (parseLoose (.exactly n) s).map (padded n)

/-- A byte string of a fixed length, such as an address or a hash. -/
def fixed (n : Nat) : Decoder (FixedBytes n) :=
  Decoder.text (Hex.Loose.Expected.exactly n).describe (parseFixed n)

/-- An integer of at most 256 bits. -/
def quantity : Decoder Word :=
  Decoder.text (Hex.Loose.Expected.upTo 32).describe fun s =>
    (parseLoose (.upTo 32) s).map Word.ofBytes

/-- An integer of at most 64 bits. -/
def quantity64 : Decoder UInt64 :=
  Decoder.text (Hex.Loose.Expected.upTo 8).describe fun s =>
    (parseLoose (.upTo 8) s).map fun b => UInt64.ofNat (Bytes.toNat b)

def parseInteger (s : String) : Except Error Word :=
  (Hex.parseWord s).mapError .rejected

/-- A 256-bit integer with any number of leading zeros. -/
def integer : Decoder Word :=
  Decoder.string.andThen parseInteger

def parseBytes (s : String) : Except Error Bytes :=
  match s.toList with
  | '0' :: 'x' :: digits =>
    (Hex.decode (String.ofList digits)).mapError fun e => .rejected ("Invalid hex: " ++ e.message)
  | _ => .error (.invalidValue (.text s) "0x prefix")

/-- A byte string of any length behind `0x`. -/
def bytes : Decoder Bytes :=
  Decoder.text "a 0x-prefixed hex-encoded vector of bytes" parseBytes

end VectorReplay.Json.HexText
