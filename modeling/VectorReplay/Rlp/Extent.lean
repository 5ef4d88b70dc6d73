import VectorReplay.Bytes

/-!
RLP items: how far the first item of a byte string reaches. An item that runs past the end, and a
long length that is at most 55 or starts with a zero byte, are refused.
-/
namespace VectorReplay.Rlp

inductive Error
  | tooShort
  | zeroLengthByte
  | invalidIndirection
  | expectedList
  | expectedString
deriving DecidableEq, Repr

def Error.name : Error → String
  | .tooShort => "RlpIsTooShort"
  | .zeroLengthByte => "RlpDataLenWithZeroPrefix"
  | .invalidIndirection => "RlpInvalidIndirection"
  | .expectedList => "RlpExpectedToBeList"
  | .expectedString => "RlpExpectedToBeData"

/-- The sizes of an item's header and of its payload. -/
structure Extent where
  header : Nat
  payload : Nat
deriving DecidableEq, Repr

namespace Extent

def total (e : Extent) : Nat := e.header + e.payload

/-- A length of `k` bytes behind the first byte. -/
def long (k : Nat) (rest : Bytes) : Except Error Extent :=
  match rest with
  | [] => .error .tooShort
  | first :: _ =>
    if first = 0 then .error .zeroLengthByte
    else if rest.length < k then .error .tooShort
    else
      let n := Bytes.toNat (rest.take k)
      if n ≤ 55 then .error .invalidIndirection else .ok ⟨1 + k, n⟩

/-- What the first byte and the length bytes declare. -/
def declared : Bytes → Except Error Extent
  | [] => .error .tooShort
  | x :: rest =>
    if x < 0x80 then .ok ⟨0, 1⟩
    else if x < 0xB8 then .ok ⟨1, x.toNat - 0x80⟩
    else if x < 0xC0 then long (x.toNat - 0xB7) rest
    else if x < 0xF8 then .ok ⟨1, x.toNat - 0xC0⟩
    else long (x.toNat - 0xF7) rest

/-- The extent of the first item, which lies inside the bytes. -/
def read (b : Bytes) : Except Error Extent :=
  match declared b with
  | .error e => .error e
  | .ok e => if e.total ≤ b.length then .ok e else .error .tooShort

theorem total_pos_of_long {k : Nat} {rest : Bytes} {e : Extent} (h : long k rest = .ok e) :
    0 < e.total := by
  cases rest <;> grind [long, total]

theorem total_pos_of_declared {b : Bytes} {e : Extent} (h : declared b = .ok e) : 0 < e.total := by
  cases b <;> grind [declared, total, total_pos_of_long]

theorem read_eq_ok {b : Bytes} {e : Extent} (h : read b = .ok e) :
    declared b = .ok e ∧ e.total ≤ b.length := by
  grind [read]

theorem total_pos_of_read {b : Bytes} {e : Extent} (h : read b = .ok e) : 0 < e.total :=
  total_pos_of_declared (read_eq_ok h).1

end Extent

/-- Lists start at `0xC0`. -/
def isList : Bytes → Bool
  | [] => false
  | x :: _ => 0xC0 ≤ x

/-- The payload of the first item. -/
def payload (b : Bytes) : Except Error Bytes := do
  let e ← Extent.read b
  pure ((b.drop e.header).take e.payload)

end VectorReplay.Rlp
