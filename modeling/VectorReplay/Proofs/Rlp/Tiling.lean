import VectorReplay.Proofs.Block.Fields
import VectorReplay.Proofs.Rlp.Reader

/-!
Two ways over the same list. A walk over its payload takes slices by offsets, each of them inside the
bytes that it is taken from; it ends where splitting ends, and the items tile the payload. A reader
that looks fields up by position finds these items, whatever was looked up before.
-/
namespace VectorReplay

/-- The bytes from `i` up to `j`; nothing where they do not lie inside the byte string. -/
def Bytes.slice? (b : Bytes) (i j : Nat) : Option Bytes :=
  if i ≤ j ∧ j ≤ b.length then some ((b.drop i).take (j - i)) else none

namespace Rlp

/-! ### The walk -/

/-- The items of a payload from an offset on. Every round moves on by an item, which has a byte at
least. -/
def walk (payload : Bytes) (offset : Nat) : Option (Except Error (List Bytes)) :=
  if _h : offset < payload.length then
    (payload.slice? offset payload.length).bind fun here =>
      match _he : Extent.read here with
      | .error e => some (.error e)
      | .ok e =>
        if payload.length < offset + e.total then some (.error .tooShort)
        else
          (payload.slice? offset (offset + e.total)).bind fun item =>
            (walk payload (offset + e.total)).map fun rest => rest.map (item :: ·)
  else some (.ok [])
termination_by payload.length - offset
decreasing_by
  have hpos := Extent.total_pos_of_read _he
  omega

/-- The items of the list that the bytes begin with, by slices. -/
def walkList (b : Bytes) : Option (Except Error (List Bytes)) :=
  match Extent.read b with
  | .error e => some (.error e)
  | .ok e =>
    if b.length < e.total then some (.error .tooShort)
    else (b.slice? e.header e.total).bind fun payload => walk payload 0

theorem split_of_read {b : Bytes} {e : Extent} (h : Extent.read b = .ok e) :
    split b = (split (b.drop e.total)).map (b.take e.total :: ·) := by
  have hne : b ≠ [] := by
    rintro rfl
    cases h
  rw [split, dif_neg hne]
  split
  next hr => cases h.symm.trans hr
  next x hr =>
    cases h.symm.trans hr
    cases split (b.drop e.total) <;> rfl

/-- No slice of a walk leaves the payload, and its items are those of splitting. -/
theorem walk_eq {payload : Bytes} {offset : Nat} (h : offset ≤ payload.length) :
    walk payload offset = some (split (payload.drop offset)) := by
  generalize hn : payload.length - offset = n
  induction n using Nat.strongRecOn generalizing offset with
  | ind n ih =>
    rw [walk]
    split
    next hlt =>
      have hhere : payload.slice? offset payload.length = some (payload.drop offset) := by
        rw [Bytes.slice?, if_pos ⟨h, le_rfl⟩, ← List.length_drop, List.take_length]
      rw [hhere, Option.bind_some]
      split
      next e he =>
        have hne : payload.drop offset ≠ [] := by
          rw [ne_eq, List.drop_eq_nil_iff]
          exact not_le.mpr hlt
        rw [split, dif_neg hne]
        split
        next hr => rw [Except.error.inj (he.symm.trans hr)]
        next hr => cases he.symm.trans hr
      next e he =>
        have hpos := Extent.total_pos_of_read he
        have hle := (Extent.read_eq_ok he).2
        rw [List.length_drop] at hle
        have hinside : offset + e.total ≤ payload.length := by omega
        have hitem : payload.slice? offset (offset + e.total) =
            some ((payload.drop offset).take e.total) := by
          rw [Bytes.slice?, if_pos ⟨Nat.le_add_right _ _, hinside⟩, Nat.add_sub_cancel_left]
        rw [if_neg (not_lt.mpr hinside), hitem, Option.bind_some,
          ih _ (by omega) hinside rfl, Option.map_some, split_of_read he, List.drop_drop]
    next hge =>
      rw [List.drop_eq_nil_of_le (not_lt.mp hge), split_nil]

theorem walkList_eq (b : Bytes) : walkList b = some (items b) := by
  rw [walkList, items, payload]
  cases he : Extent.read b with
  | error e => rfl
  | ok e =>
    have hle := (Extent.read_eq_ok he).2
    have hslice : b.slice? e.header e.total = some ((b.drop e.header).take e.payload) := by
      rw [Bytes.slice?, if_pos ⟨Nat.le_add_right _ _, hle⟩, Extent.total, Nat.add_sub_cancel_left]
    dsimp only
    rw [if_neg (not_lt.mpr hle), hslice, Option.bind_some, walk_eq (Nat.zero_le _), List.drop_zero]
    rfl

/-! ### Tiles -/

/-- Items side by side cover a payload. None is empty, and each is as long as its own header says. -/
structure Tiles (payload : Bytes) (xs : List Bytes) : Prop where
  flatten : xs.flatten = payload
  ne_nil : ∀ x ∈ xs, x ≠ []
  declared : ∀ x ∈ xs, ∃ e, Extent.declared x = .ok e ∧ e.total = x.length

theorem tiles_of_split {payload : Bytes} {xs : List Bytes} (h : split payload = .ok xs) :
    Tiles payload xs where
  flatten := flatten_split h
  ne_nil x hx := (wellFormed_of_split h x hx).ne_nil
  declared x hx := by
    obtain ⟨e, he, htotal⟩ := (wellFormed_of_split h x hx).read []
    rw [List.append_nil] at he
    exact ⟨e, (Extent.read_eq_ok he).1, htotal⟩

/-- The reader after accesses by position, one after the other, whatever each of them found. -/
def Reader.after (r : Reader) (accesses : List Nat) : Reader :=
  accesses.foldl (fun r i => (r.item i).2) r

theorem Reader.Tracks.after {r : Reader} {list rest : Bytes} {xs : List Bytes}
    (h : r.Tracks list xs rest) (accesses : List Nat) : (r.after accesses).Tracks list xs rest := by
  induction accesses generalizing r with
  | nil => exact h
  | cons i accesses ih => exact ih (h.next i)

end Rlp

namespace Block

/-! ### Looking up -/

/-- Looking fields up by position, with the place of the last one in mind. -/
abbrev Lookup (α : Type) := ExceptT DecodeError (StateM Rlp.Reader) α

namespace Lookup

def item (i : Nat) : Lookup Bytes := fun r =>
  let (b, r) := r.item i
  (liftRlp b, r)

def bytes (i : Nat) (name : String) : Lookup Bytes := do
  let b ← item i
  if Rlp.isList b then throw (.schema (.notString name)) else ofExcept (liftRlp (Rlp.payload b))

def word (i : Nat) (name : String) : Lookup Word := do
  let b ← bytes i name
  if 32 < b.length then throw (.schema (.tooWide name 256)) else pure (Word.ofBytes b)

def uint64 (i : Nat) (name : String) : Lookup UInt64 := do
  let w ← word i name
  if UInt64.size ≤ w.toNat then throw (.schema (.tooWide name 64)) else pure (Word.low64 w)

def address (i : Nat) (name : String) : Lookup Address := do
  let b ← bytes i name
  match FixedBytes.ofBytes? 20 b with
  | some a => pure a
  | none => throw (.schema (.addressLength name b.length))

/-- What a lookup makes of a field does not depend on the place. -/
theorem fst_bind {α β : Type} {m : Lookup α} {f : α → Lookup β} {r : Rlp.Reader}
    {x : Except DecodeError α} {g : α → Except DecodeError β} (hm : (m r).1 = x)
    (hf : ∀ a r, (f a r).1 = g a) : ((m >>= f) r).1 = x >>= g := by
  rw [bind_apply, ← hm]
  rcases m r with ⟨e | a, r'⟩
  · rfl
  · exact hf a r'

end Lookup

/-- Lookups find the fields of a split, as items and as values. -/
structure Agrees (r : Rlp.Reader) (fields : List Bytes) : Prop where
  item : ∀ i x, fields[i]? = some x → (Lookup.item i r).1 = .ok x
  bytes : ∀ i name, i < fields.length → (Lookup.bytes i name r).1 = bytesAt fields i name
  word : ∀ i name, i < fields.length → (Lookup.word i name r).1 = wordAt fields i name
  uint64 : ∀ i name, i < fields.length → (Lookup.uint64 i name r).1 = uint64At fields i name
  address : ∀ i name, i < fields.length → (Lookup.address i name r).1 = addressAt fields i name

theorem agrees_of_tracks {r : Rlp.Reader} {list rest : Bytes} {fields : List Bytes}
    (h : r.Tracks list fields rest) : Agrees r fields := by
  have hitem (i : Nat) (x : Bytes) (hx : fields[i]? = some x) : (Lookup.item i r).1 = .ok x := by
    obtain ⟨r', hr', -⟩ := h.item hx
    rw [Lookup.item, hr']
    rfl
  have hfield (i : Nat) (hi : i < fields.length) : (Lookup.item i r).1 = fieldAt fields i := by
    rw [hitem i fields[i] (List.getElem?_eq_getElem hi), fieldAt, List.getElem?_eq_getElem hi]
  have hbytes (i : Nat) (name : String) (hi : i < fields.length) :
      (Lookup.bytes i name r).1 = bytesAt fields i name := by
    refine Lookup.fst_bind (hfield i hi) fun b r => ?_
    split
    · rfl
    · cases liftRlp (Rlp.payload b) <;> rfl
  have hword (i : Nat) (name : String) (hi : i < fields.length) :
      (Lookup.word i name r).1 = wordAt fields i name := by
    refine Lookup.fst_bind (hbytes i name hi) fun b r => ?_
    split <;> rfl
  refine ⟨hitem, hbytes, hword, fun i name hi => ?uint64, fun i name hi => ?address⟩
  case uint64 =>
    refine Lookup.fst_bind (hword i name hi) fun w r => ?_
    split <;> rfl
  case address =>
    refine Lookup.fst_bind (hbytes i name hi) fun b r => ?_
    cases FixedBytes.ofBytes? 20 b <;> rfl

/-- The fields of a list are found without a slice out of range. They tile the payload, and a reader
finds the same fields by position, after any accesses. -/
theorem listItems_tiles {b : Bytes} (list : Rlp.isList b = true) (what : String) :
    (Rlp.walkList b).map liftRlp = some (listItems what b) ∧
    ∀ fields, listItems what b = .ok fields →
      (∃ payload, Rlp.payload b = .ok payload ∧ Rlp.Tiles payload fields) ∧
      ∀ accesses, Agrees ((Rlp.Reader.ofBytes b).after accesses) fields := by
  have hitems : listItems what b = liftRlp (Rlp.items b) := if_pos list
  refine ⟨by rw [Rlp.walkList_eq, Option.map_some, hitems], fun fields hfields => ?_⟩
  rw [hitems, liftRlp_eq_ok] at hfields
  obtain ⟨payload, hpayload, hsplit⟩ := bind_eq_ok.mp hfields
  refine ⟨⟨payload, hpayload, Rlp.tiles_of_split hsplit⟩, fun accesses => ?_⟩
  obtain ⟨front, rest, rfl, hlist⟩ := Rlp.begins_iff.mpr ⟨list, hfields⟩
  exact agrees_of_tracks ((Rlp.Reader.tracks_ofBytes hlist rest).after accesses)

/-- A list of two fields with two bytes behind it. The accesses fail at its end, go on behind it and
turn back. -/
theorem listItems_tiles_followed :
    Rlp.isList [0xC4, 0x82, 1, 2, 0x80, 5, 6] = true ∧
    listItems "header" [0xC4, 0x82, 1, 2, 0x80, 5, 6] = .ok [[0x82, 1, 2], [0x80]] ∧
    Agrees ((Rlp.Reader.ofBytes [0xC4, 0x82, 1, 2, 0x80, 5, 6]).after [2, 3, 0, 9])
      [[0x82, 1, 2], [0x80]] := by
  have hlist : Rlp.isList [0xC4, 0x82, 1, 2, 0x80, 5, 6] = true := by decide
  have hfields : listItems "header" [0xC4, 0x82, 1, 2, 0x80, 5, 6] =
      .ok [[0x82, 1, 2], [0x80]] := by
    cbv
  exact ⟨hlist, hfields, ((listItems_tiles hlist "header").2 _ hfields).2 [2, 3, 0, 9]⟩

end Block

end VectorReplay
