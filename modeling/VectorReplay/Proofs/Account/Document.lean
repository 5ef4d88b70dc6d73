import VectorReplay.Proofs.Account.Storage
import VectorReplay.Proofs.Hex.Integer
import VectorReplay.Proofs.Hex.Loose
import VectorReplay.Proofs.Json.Ensures
import VectorReplay.Proofs.Json.Reads
import VectorReplay.Proofs.Table

/-!
Accounts in documents: every part of an account reads back from the value that is written for it.
-/
namespace VectorReplay

open Json

/-! ### Texts -/

namespace Json.HexText

theorem parseInteger_eq_ok_iff {s : String} {w : Word} :
    parseInteger s = .ok w ↔ Hex.parseWord s = .ok w := by
  rw [parseInteger]
  cases Hex.parseWord s <;> simp [Except.mapError]

theorem parseInteger_wordText (w : Word) : parseInteger (Hex.wordText w) = .ok w :=
  parseInteger_eq_ok_iff.mpr (Hex.parseWord_wordText w)

theorem parseBytes_marked (b : Bytes) : parseBytes (Hex.marked b) = .ok b := by
  have hdecode : Hex.decode (String.ofList (Hex.digits b)) = .ok b := by
    rw [Hex.decode, String.toList_ofList, Hex.decodeBytes_of_spells (Hex.spells_digits b)]
  rw [parseBytes, Hex.marked, Hex.encode, Hex.toList_mark]
  simp only [hdecode]
  rfl

theorem padded_bytes {n : Nat} (a : FixedBytes n) : padded n a.bytes = a := by
  apply FixedBytes.ext
  have hlength := a.length_eq
  simp [padded, ← hlength]

theorem parseFixed_of_spells {n : Nat} {s : List Char} {a : FixedBytes n}
    (h : Hex.Spells s a.bytes) : parseFixed n ("0x" ++ String.ofList s) = .ok a := by
  have hdecode := Hex.Loose.decode_of_spells h
  rw [a.length_eq] at hdecode
  rw [parseFixed, parseLoose, hdecode]
  exact congrArg Except.ok (padded_bytes a)

theorem parseFixed_marked {n : Nat} (a : FixedBytes n) :
    parseFixed n (Hex.marked a.bytes) = .ok a :=
  parseFixed_of_spells (Hex.spells_digits a.bytes)

theorem reads_integer (w : Word) : integer.Reads (.text (Hex.wordText w)) w :=
  (Decoder.reads_string _).andThen (parseInteger_wordText w)

theorem reads_bytes (b : Bytes) : bytes.Reads (.text (Hex.marked b)) b :=
  Decoder.reads_text (parseBytes_marked b)

end Json.HexText

/-! ### Storage -/

namespace Storage

/-- The texts of an entry. -/
def entryTexts (e : Word × Word) : String × String :=
  (Hex.wordText e.1, Hex.wordText e.2)

theorem words_entryTexts (e : Word × Word) : words (entryTexts e) = .ok e :=
  words_eq_ok.mpr ⟨HexText.parseInteger_wordText e.1, HexText.parseInteger_wordText e.2⟩

theorem ofTexts_entries (s : Storage) : ofTexts (s.entries.map entryTexts) = .ok s := by
  have hwords : words ∘ entryTexts = .ok := funext words_entryTexts
  rw [ofTexts_eq_ok, List.map_map, hwords]

theorem nodup_keys (s : Storage) : ((s.entries.map entryTexts).map Prod.fst).Nodup := by
  have htexts := s.nodup_words.map Hex.wordText_injective
  rw [List.map_map] at htexts ⊢
  exact htexts

/-- The members of a storage object are collected by their texts. -/
theorem reads_texts (ms : List (String × String)) :
    texts.Reads (.object (ms.map fun m => (m.1, .text m.2))) (Table.ofEntries ms) :=
  Decoder.reads_strings (fun t m => Table.set t m.1 m.2) [] ms

theorem reads_storage (s : Storage) : decoder.Reads s.toValue s := by
  have htexts := reads_texts (s.entries.map entryTexts)
  rw [Table.ofEntries_of_nodup s.nodup_keys, List.map_map] at htexts
  exact htexts.andThen s.ofTexts_entries

end Storage

/-! ### Accounts -/

namespace Account

/-- The four parts of an account, however its storage is written. -/
theorem reads_parts (code : Bytes) (balance nonce : Word) {v : Value} {s : Storage}
    (h : Storage.decoder.Reads v s) : decoder.Reads (.object [
      ("code", .text (Hex.marked code)), ("balance", .text (Hex.wordText balance)),
      ("nonce", .text (Hex.wordText nonce)), ("storage", v)]) ⟨code, balance, nonce, s⟩ := by
  have hfolds : Reader.Folds record.readMember record.blank
      [("code", .text (Hex.marked code)), ("balance", .text (Hex.wordText balance)),
        ("nonce", .text (Hex.wordText nonce)), ("storage", v)]
      ⟨some code, some balance, some nonce, some s⟩ := by
    refine .cons (Record.readMember_field rfl rfl (Decoder.reads_field (HexText.reads_bytes _))) ?_
    refine .cons (Record.readMember_field rfl rfl (Decoder.reads_field (HexText.reads_integer _))) ?_
    refine .cons (Record.readMember_field rfl rfl (Decoder.reads_field (HexText.reads_integer _))) ?_
    refine .cons (Record.readMember_field rfl rfl (Decoder.reads_field h)) ?_
    exact .nil _
  exact Record.reads_object hfolds rfl

theorem reads_account (a : Account) : decoder.Reads a.toValue a :=
  reads_parts a.code a.balance a.nonce a.storage.reads_storage

end Account

namespace Accounts

theorem add_of_not_mem {as : Accounts} {address : Address} (a : Account)
    (h : address ∉ as.map Prod.fst) : as.add address a = .ok (as ++ [(address, a)]) := by
  rw [add, Table.get?_eq_none h]
  rfl

/-- Accounts read back in their order if no address stands twice. -/
theorem reads_accounts {as : Accounts} (h : as.Distinct) : decoder.Reads (toValue as) as := by
  have hentries : decoder.Reads (toValue as) (as.map fun e => e) := by
    apply Decoder.reads_table (HexText.parseFixed 20) Account.decoder add
      (fun e => Hex.marked e.1.bytes) (fun e => e.2.toValue) (fun e => e)
    · intro e
      exact HexText.parseFixed_marked e.1
    · intro e
      exact e.2.reads_account
    · intro t e he
      exact add_of_not_mem e.2 he
    · exact h
  rwa [List.map_id'] at hentries

/-- An account is taken in only if its address is new. -/
theorem distinct_of_add {as as' : Accounts} {address : Address} {a : Account} (h : as.Distinct)
    (hadd : as.add address a = .ok as') : as'.Distinct := by
  unfold add at hadd
  cases hget : as.get? address with
  | some b => simp [hget] at hadd
  | none =>
    simp only [hget, Option.isSome_none, Bool.false_eq_true, if_false] at hadd
    cases hadd
    have hnew : address ∉ as.map Prod.fst := Table.not_mem_of_get? hget
    unfold Distinct
    rw [List.map_append, List.nodup_append]
    refine ⟨h, by simp, ?_⟩
    intro x hx y hy heq
    have hy : y = address := by simpa using hy
    exact hnew (hy ▸ heq ▸ hx)

theorem distinct_of_decoder : decoder.read.Ensures Distinct :=
  Decoder.ensures_entries List.nodup_nil fun _ _ _ _ h hadd => distinct_of_add h hadd

end Accounts

end VectorReplay
