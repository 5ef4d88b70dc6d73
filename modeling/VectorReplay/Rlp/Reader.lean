import VectorReplay.Rlp.Extent

/-!
Indexed access to the items of a list that remembers where the last item was found. An access at the
same or a later index goes on from there, over all bytes that follow; an earlier index starts anew,
inside the payload.
-/
namespace VectorReplay.Rlp

/-- The index of an item and the offset at which it starts. -/
structure Mark where
  index : Nat
  offset : Nat
deriving DecidableEq, Repr

structure Reader where
  bytes : Bytes
  mark : Option Mark
deriving DecidableEq, Repr

namespace Reader

def ofBytes (b : Bytes) : Reader := ⟨b, none⟩

/-- Passes over `k` items: what is left and how many bytes were passed. -/
def skip : (k : Nat) → Bytes → Except Error (Bytes × Nat)
  | 0, b => .ok (b, 0)
  | k + 1, b => do
    let e ← Extent.read b
    let (rest, n) ← skip k (b.drop e.total)
    pure (rest, e.total + n)

/-- Where to start looking for item `i`: the bytes from there on, the items still to pass and the
offset. -/
def start (r : Reader) (i : Nat) : Except Error (Bytes × Nat × Nat) :=
  match r.mark with
  | some m =>
    if m.index ≤ i then .ok (r.bytes.drop m.offset, i - m.index, m.offset)
    else fresh
  | none => fresh
where
  fresh : Except Error (Bytes × Nat × Nat) := do
    let e ← Extent.read r.bytes
    pure ((r.bytes.drop e.header).take e.payload, i, e.header)

/-- The raw item at an index. The place is remembered even if what stands there is no item. -/
def item (r : Reader) (i : Nat) : Except Error Bytes × Reader :=
  if isList r.bytes then
    match r.start i with
    | .error e => (.error e, r)
    | .ok (b, k, offset) =>
      match skip k b with
      | .error e => (.error e, r)
      | .ok (rest, n) =>
        ((Extent.read rest).map fun e => rest.take e.total,
          { r with mark := some ⟨i, offset + n⟩ })
  else (.error .expectedList, r)

/-- The byte string held by a raw item. -/
def stringOf (b : Bytes) : Except Error Bytes :=
  match b with
  | [] => .error .tooShort
  | x :: rest =>
    if x < 0x80 then .ok [x]
    else if 0xC0 ≤ x then .error .expectedString
    else if x = 0x81 ∧ rest.headD 0x80 < 0x80 then .error .invalidIndirection
    else payload b

/-- The byte string at an index. -/
def string (r : Reader) (i : Nat) : Except Error Bytes × Reader :=
  match r.item i with
  | (.error e, r) => (.error e, r)
  | (.ok b, r) => (stringOf b, r)

end Reader

end VectorReplay.Rlp
