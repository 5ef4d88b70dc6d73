import Mathlib.Data.Set.List
import VectorReplay.Proofs.Account.Document
import VectorReplay.Proofs.Hex.Numeral

/-!
Storage members in any order. Members are taken in one by one and a key is refused only when its word
is there already, so that the second of two keys is blamed; what comes out is the same in every order.
-/
namespace VectorReplay

open Json

namespace Storage

theorem exists_words_iff {t : String × String} :
    (∃ e, words t = .ok e) ↔ Hex.IsInteger t.1 ∧ Hex.IsInteger t.2 := by
  simp only [words_eq_ok, HexText.parseInteger_eq_ok_iff, Hex.isInteger_iff]
  constructor
  · rintro ⟨e, hkey, hvalue⟩
    exact ⟨⟨e.1, hkey⟩, ⟨e.2, hvalue⟩⟩
  · rintro ⟨⟨key, hkey⟩, ⟨value, hvalue⟩⟩
    exact ⟨(key, value), hkey, hvalue⟩

/-! ### Entries in any order -/

/-- Entries under different keys make up a storage, whatever their order. -/
theorem exists_of_nodup {es : List (Word × Word)} (h : (es.map Prod.fst).Nodup) :
    ∃ s : Storage, s.entries.Perm es := by
  induction es with
  | nil => exact ⟨empty, .refl _⟩
  | cons e es ih =>
    obtain ⟨hnew, hrest⟩ := List.nodup_cons.mp h
    obtain ⟨s, hs⟩ := ih hrest
    have hkey : e.1 ∉ s.entries.map Prod.fst := fun hmem => hnew ((hs.map _).mem_iff.mp hmem)
    exact ⟨s.insert e.1 e.2, (place_perm e.2 hkey).trans (hs.cons e)⟩

theorem ofTexts_perm {ts ts' : List (String × String)} (h : ts.Perm ts') (s : Storage) :
    ofTexts ts = .ok s ↔ ofTexts ts' = .ok s := by
  have hwords := h.map words
  rw [ofTexts_eq_ok, ofTexts_eq_ok]
  exact ⟨hwords.symm.trans, hwords.trans⟩

/-- Texts are put together exactly if all of them are read and the keys stand for different words. -/
theorem exists_ofTexts_iff {ts : List (String × String)} : (∃ s, ofTexts ts = .ok s) ↔
    (∀ t ∈ ts, ∃ e, words t = .ok e) ∧ (ts.map fun t => HexText.parseInteger t.1).Nodup := by
  constructor
  · rintro ⟨s, hs⟩
    exact ⟨fun t => exists_words_of_ofTexts hs, nodup_keys_of_ofTexts hs⟩
  · rintro ⟨hread, hkeys⟩
    obtain ⟨es, hes⟩ : ts.map words ∈ Set.range (List.map .ok) := by
      rw [Set.range_list_map]
      rintro _ hr
      obtain ⟨t, ht, rfl⟩ := List.mem_map.mp hr
      obtain ⟨e, he⟩ := hread t ht
      exact ⟨e, he.symm⟩
    have hnodup : (es.map Prod.fst).Nodup := by
      rw [← map_keyOf hread, ← hes, keyOf_entries] at hkeys
      exact hkeys.of_map _
    obtain ⟨s, hs⟩ := exists_of_nodup hnodup
    refine ⟨s, ofTexts_eq_ok.mpr ?_⟩
    rw [← hes]
    exact hs.symm.map Except.ok

/-! ### Documents -/

/-- Storage that is put together from the collected members in the order in which `order` lists
them. -/
def decoderBy (order : Table String String → Table String String) : Decoder Storage :=
  texts.andThen fun t => ofTexts (order t)

theorem decode_decoderBy {order : Table String String → Table String String} {text : String}
    {s : Storage} : (decoderBy order).decode text = .ok s ↔
      ∃ t, texts.decode text = .ok t ∧ ofTexts (order t) = .ok s :=
  Decoder.decode_andThen_eq_ok_iff

section
variable {order : Table String String → Table String String} (horder : ∀ t, (order t).Perm t)
include horder

theorem decode_decoderBy_iff {text : String} {s : Storage} :
    (decoderBy order).decode text = .ok s ↔ decoder.decode text = .ok s := by
  rw [decode_decoderBy, decoder, Decoder.decode_andThen_eq_ok_iff]
  simp only [ofTexts_perm (horder _)]

/-- Members under different texts are all collected. -/
theorem decode_members_iff {ms : List (String × String)} (distinct : (ms.map Prod.fst).Nodup)
    (s : Storage) :
    (decoderBy order).decode (Value.object (ms.map fun m => (m.1, .text m.2))).toText = .ok s ↔
      ofTexts ms = .ok s := by
  have htexts := (reads_texts ms).decode
  rw [Table.ofEntries_of_nodup distinct] at htexts
  rw [decode_decoderBy, htexts]
  constructor
  · rintro ⟨_, ⟨⟩, hs⟩
    exact (ofTexts_perm (horder ms) s).mp hs
  · intro hs
    exact ⟨ms, rfl, (ofTexts_perm (horder ms) s).mpr hs⟩

end

/-- The order in which members are taken in does not count: they make up one storage in every order or
are refused in every order. They make up a storage exactly if all their texts are integers and the keys
stand for different words; each value then stands under its key and nothing else does. A document is
thus read the same however the collected members are listed, and by its members if no key text stands
twice. -/
theorem reads_in_any_order :
    (∀ ms ms' : List (String × String), ms.Perm ms' →
      ∀ s, ofTexts ms = .ok s ↔ ofTexts ms' = .ok s) ∧
    (∀ ms, (∃ s, ofTexts ms = .ok s) ↔ (∀ m ∈ ms, Hex.IsInteger m.1 ∧ Hex.IsInteger m.2) ∧
      (ms.map fun m => HexText.parseInteger m.1).Nodup) ∧
    (∀ ms s, ofTexts ms = .ok s → ∀ key value, s.get? key = some value ↔
      ∃ m ∈ ms, HexText.parseInteger m.1 = .ok key ∧ HexText.parseInteger m.2 = .ok value) ∧
    ∀ order : Table String String → Table String String, (∀ t, (order t).Perm t) → ∀ s,
      (∀ text, (decoderBy order).decode text = .ok s ↔ decoder.decode text = .ok s) ∧
      ∀ ms : List (String × String), (ms.map Prod.fst).Nodup →
        ((decoderBy order).decode (Value.object (ms.map fun m => (m.1, .text m.2))).toText = .ok s ↔
          ofTexts ms = .ok s) := by
  refine ⟨fun ms ms' => ofTexts_perm, fun ms => ?succeeds, fun ms s hs key value => ?holds,
    fun order horder s => ⟨fun text => decode_decoderBy_iff horder,
      fun ms hdistinct => decode_members_iff horder hdistinct s⟩⟩
  case succeeds =>
    simp only [← exists_words_iff]
    exact exists_ofTexts_iff
  case holds =>
    simp only [← words_eq_ok (e := (key, value)), ← mem_entries_of_ofTexts hs]
    exact ⟨mem_entries, get?_of_mem⟩

/-! ### Two members -/

def twoMembers : List (String × String) :=
  [("0x02", "0x6"), ("0X1", "0x05")]

def twoSlots : Storage :=
  (empty.insert 1 5).insert 2 6

theorem ofTexts_twoMembers : ofTexts twoMembers = .ok twoSlots :=
  eq_ok_of_toOption (by decide +kernel)

/-- The members in both orders, and a document whose members are listed from the last to the first. -/
theorem reads_in_any_order_reversed :
    twoMembers.Perm twoMembers.reverse ∧ (twoMembers.map Prod.fst).Nodup ∧
    (∀ t : Table String String, t.reverse.Perm t) ∧
    ofTexts twoMembers = .ok twoSlots ∧ ofTexts twoMembers.reverse = .ok twoSlots ∧
    (twoSlots.get? 2 = some 6 ↔ ∃ m ∈ twoMembers,
      HexText.parseInteger m.1 = .ok 2 ∧ HexText.parseInteger m.2 = .ok 6) ∧
    (decoderBy List.reverse).decode
      (Value.object (twoMembers.map fun m => (m.1, .text m.2))).toText = .ok twoSlots := by
  have hperm : twoMembers.Perm twoMembers.reverse := (List.reverse_perm _).symm
  have hdistinct : (twoMembers.map Prod.fst).Nodup := by decide
  have hreverse (t : Table String String) : t.reverse.Perm t := List.reverse_perm t
  obtain ⟨reordered, -, holds, listed⟩ := reads_in_any_order
  refine ⟨hperm, hdistinct, hreverse, ofTexts_twoMembers, ?reversed, ?slot, ?document⟩
  case reversed => exact (reordered _ _ hperm _).mp ofTexts_twoMembers
  case slot => exact holds _ _ ofTexts_twoMembers 2 6
  case document => exact ((listed _ hreverse twoSlots).2 _ hdistinct).mpr ofTexts_twoMembers

end Storage

end VectorReplay
