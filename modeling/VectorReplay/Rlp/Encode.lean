import VectorReplay.Bytes

/-!
Canonical RLP encoding.
-/
namespace VectorReplay.Rlp

/-- A payload behind its header; `base` is `0x80` for strings and `0xC0` for lists. -/
def frame (base : UInt8) (body : Bytes) : Bytes :=
  if body.length ≤ 55 then (base + UInt8.ofNat body.length) :: body
  else
    let size := Bytes.ofNat body.length
    (base + 55 + UInt8.ofNat size.length) :: (size ++ body)

def encodeString (b : Bytes) : Bytes :=
  match b with
  | [x] => if x < 0x80 then [x] else frame 0x80 [x]
  | _ => frame 0x80 b

def encodeNat (n : Nat) : Bytes :=
  encodeString (Bytes.ofNat n)

/-- A list of items that are encoded already. -/
def encodeList (items : List Bytes) : Bytes :=
  frame 0xC0 items.flatten

end VectorReplay.Rlp
