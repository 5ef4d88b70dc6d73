import VectorReplay.Bytes

/-!
Text and its UTF-8 bytes. Bytes that are not UTF-8 are refused by `decode?` and shown as
replacement characters by `decodeLossy`.
-/
namespace VectorReplay.Text

/-- The UTF-8 bytes of a text. -/
def utf8 (s : List Char) : Bytes :=
  s.flatMap String.utf8EncodeChar

def utf8Size (s : List Char) : Nat :=
  (utf8 s).length

def decode? (b : Bytes) : Option String :=
  String.fromUTF8? ⟨b.toArray⟩

def isContinuation (b : UInt8) : Bool :=
  0x80 ≤ b && b < 0xC0

/-- The bounds of the byte after a lead byte, and how many bytes follow the lead. -/
def leadBounds (b : UInt8) : Option (UInt8 × UInt8 × Nat) :=
  if 0xC2 ≤ b && b < 0xE0 then some (0x80, 0xBF, 1)
  else if b = 0xE0 then some (0xA0, 0xBF, 2)
  else if b = 0xED then some (0x80, 0x9F, 2)
  else if 0xE1 ≤ b && b < 0xF0 then some (0x80, 0xBF, 2)
  else if b = 0xF0 then some (0x90, 0xBF, 3)
  else if 0xF1 ≤ b && b < 0xF4 then some (0x80, 0xBF, 3)
  else if b = 0xF4 then some (0x80, 0x8F, 3)
  else none

/-- How many bytes belong to a sequence begun by `b`, and whether it is complete. -/
def sequenceAt (b : UInt8) (rest : Bytes) : Nat × Bool :=
  if b < 0x80 then (1, true)
  else match leadBounds b with
    | none => (1, false)
    | some (lo, hi, more) =>
      match rest with
      | [] => (1, false)
      | c :: r =>
        if lo ≤ c && c ≤ hi then
          let tail := (r.take (more - 1)).takeWhile isContinuation
          (2 + tail.length, tail.length = more - 1)
        else (1, false)

/-- The code point of a complete sequence. -/
def codePoint : Bytes → Nat
  | [] => 0
  | [a] => a.toNat
  | [a, b] => (a.toNat - 0xC0) * 64 + (b.toNat - 0x80)
  | [a, b, c] => ((a.toNat - 0xE0) * 64 + (b.toNat - 0x80)) * 64 + (c.toNat - 0x80)
  | a :: b :: c :: d :: _ =>
    (((a.toNat - 0xF0) * 64 + (b.toNat - 0x80)) * 64 + (c.toNat - 0x80)) * 64 + (d.toNat - 0x80)

def decodeLossyFuel : Nat → Bytes → List Char
  | 0, _ => []
  | _, [] => []
  | fuel + 1, b :: rest =>
    let (n, complete) := sequenceAt b rest
    (if complete then Char.ofNat (codePoint ((b :: rest).take n)) else '\uFFFD') ::
      decodeLossyFuel fuel ((b :: rest).drop n)

/-- Every maximal piece of a broken sequence becomes one replacement character. -/
def decodeLossy (b : Bytes) : String :=
  String.ofList (decodeLossyFuel b.length b)

end VectorReplay.Text
