import VectorReplay.Block.Fields
import VectorReplay.Proofs.Computation
import VectorReplay.Proofs.Rlp.Item

/-!
What the fields of a list say. Every reader of a field succeeds exactly where the grammar finds a
string of the right size, and answers its big-endian value.
-/
namespace VectorReplay

namespace Block

/-- Field `i` holds a string. -/
def StringAt (fields : List Bytes) (i : Nat) (held : Bytes) : Prop :=
  ∃ item, fields[i]? = some item ∧ Rlp.IsString item held

/-- Field `i` holds a string of at most 32 bytes, whose value is the word. -/
def WordAt (fields : List Bytes) (i : Nat) (w : Word) : Prop :=
  ∃ held, StringAt fields i held ∧ held.length ≤ 32 ∧ w = Word.ofBytes held

def UInt64At (fields : List Bytes) (i : Nat) (n : UInt64) : Prop :=
  ∃ held, StringAt fields i held ∧ held.length ≤ 32 ∧ n.toNat = Bytes.toNat held

theorem StringAt.unique {fields : List Bytes} {i : Nat} {a b : Bytes}
    (ha : StringAt fields i a) (hb : StringAt fields i b) : a = b := by
  obtain ⟨x, hx, hax⟩ := ha
  obtain ⟨y, hy, hby⟩ := hb
  rw [hx] at hy
  cases hy
  exact hax.unique hby

variable {what name : String} {i : Nat}

theorem liftRlp_eq_ok {α : Type} {x : Except Rlp.Error α} {a : α} :
    liftRlp x = .ok a ↔ x = .ok a := by
  cases x <;> simp [liftRlp]

theorem listItems_eq_ok {b : Bytes} {xs : List Bytes} (hb : Rlp.WellFormed b) :
    listItems what b = .ok xs ↔ Rlp.IsList b xs := by
  rw [← Rlp.isList_items_iff hb, listItems]
  split
  next h => simp [h, liftRlp_eq_ok]
  next h => simp [h]

section

variable {fields : List Bytes} (wellFormed : ∀ x ∈ fields, Rlp.WellFormed x)
include wellFormed

theorem bytesAt_eq_ok {held : Bytes} :
    bytesAt fields i name = .ok held ↔ StringAt fields i held := by
  rw [bytesAt, bind_eq_ok, StringAt]
  cases hi : fields[i]? with
  | none => simp [fieldAt, hi]
  | some item =>
    have hw : Rlp.WellFormed item := wellFormed item (List.mem_of_getElem? hi)
    have hitem : fieldAt fields i = .ok item := by simp [fieldAt, hi]
    simp only [hitem, Except.ok.injEq, exists_eq_left', Option.some.injEq,
      ← Rlp.payload_iff_isString hw]
    split
    next h => simp [h]
    next h => simp [h, liftRlp_eq_ok]

theorem wordAt_eq_ok {w : Word} : wordAt fields i name = .ok w ↔ WordAt fields i w := by
  simp only [wordAt, bind_eq_ok, bytesAt_eq_ok wellFormed, WordAt]
  constructor
  · rintro ⟨held, hs, h⟩
    split at h
    next => simp at h
    next hlen =>
      cases h
      exact ⟨held, hs, by omega, rfl⟩
  · rintro ⟨held, hs, hlen, rfl⟩
    exact ⟨held, hs, if_neg (by omega)⟩

theorem uint64At_eq_ok {n : UInt64} : uint64At fields i name = .ok n ↔ UInt64At fields i n := by
  simp only [uint64At, bind_eq_ok, wordAt_eq_ok wellFormed, UInt64At]
  constructor
  · rintro ⟨w, ⟨held, hs, hlen, rfl⟩, h⟩
    split at h
    next => simp at h
    next hsize =>
      cases h
      rw [Word.toNat_ofBytes hlen] at hsize
      refine ⟨held, hs, hlen, ?_⟩
      rw [Word.low64, Word.toNat_ofBytes hlen, UInt64.toNat_ofNat_of_lt' (by omega)]
  · rintro ⟨held, hs, hlen, hn⟩
    have hw := Word.toNat_ofBytes hlen
    refine ⟨_, ⟨held, hs, hlen, rfl⟩, ?_⟩
    have hlt : n.toNat < UInt64.size := n.toNat_lt
    rw [if_neg (by omega), Word.low64, hw, ← hn, UInt64.ofNat_toNat]

theorem addressAt_eq_ok {a : Address} :
    addressAt fields i name = .ok a ↔ StringAt fields i a.bytes := by
  simp only [addressAt, bind_eq_ok, bytesAt_eq_ok wellFormed]
  constructor
  · rintro ⟨held, hs, h⟩
    by_cases hlen : held.length = 20
    · simp only [FixedBytes.ofBytes?, dif_pos hlen] at h
      cases h
      exact hs
    · simp [FixedBytes.ofBytes?, hlen] at h
  · intro hs
    exact ⟨a.bytes, hs, by simp⟩

end

end Block

end VectorReplay
