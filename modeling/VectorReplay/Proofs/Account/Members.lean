import VectorReplay.Proofs.Account.Document
import VectorReplay.Proofs.Json.Refines

/-!
What an account that was read keeps of the storage members of its document. Members are collected
by the texts of their keys before the keys are compared as words: differently spelled keys of one
word are refused, but a key that is repeated letter by letter gives one entry, with its last value.
-/
namespace VectorReplay

open Json

/-! ### Storage -/

namespace Storage

/-- The members of a storage object as they stand. -/
def members : Decoder (List (String × String)) :=
  Decoder.entries "a map" .ok Decoder.string [] fun ms key value => .ok (ms ++ [(key, value)])

/-- Any list of members is read as it stands, repeated keys included. -/
theorem reads_members (ms : List (String × String)) :
    members.Reads (.object (ms.map fun m => (m.1, .text m.2))) ms := by
  have hfold : ms.foldl (fun ms m => ms ++ [m]) [] = ms := by
    induction ms using List.reverseRecOn with
    | nil => rfl
    | append_singleton ms m ih => rw [List.foldl_concat, ih]
  have hreads : members.Reads _ _ := Decoder.reads_strings (fun ms m => ms ++ [m]) [] ms
  rwa [hfold] at hreads

theorem refines_texts : texts.read.Refines members.read fun t ms => t = Table.ofEntries ms := by
  refine Decoder.refines_entries rfl ?_
  rintro _ ms key value _ rfl ⟨⟩
  exact ⟨_, rfl, (Table.ofEntries_concat ms (key, value)).symm⟩

/-- The storage has an entry for every text that stands as a key, and nothing else. -/
structure Keeps (s : Storage) (ms : List (String × String)) : Prop where
  size : s.size = (ms.map Prod.fst).dedup.length
  /-- Keys of one word are spelled alike. -/
  spelled : ∀ m ∈ ms, ∀ m' ∈ ms, ∀ key, HexText.parseInteger m.1 = .ok key →
    HexText.parseInteger m'.1 = .ok key → m.1 = m'.1
  /-- The last value of a key counts. -/
  last : ∀ before m after, ms = before ++ m :: after → m.1 ∉ after.map Prod.fst →
    ∃ e, words m = .ok e ∧ s.get? e.1 = some e.2

theorem keeps_of_ofTexts {s : Storage} {ms : List (String × String)}
    (h : ofTexts (Table.ofEntries ms) = .ok s) : s.Keeps ms where
  size := by rw [size_of_ofTexts h, Table.length_ofEntries]
  spelled := by
    intro m hm m' hm' key hkey hkey'
    have hentry (d : String × String) (hd : d ∈ ms) : ∃ t ∈ Table.ofEntries ms, t.1 = d.1 :=
      List.mem_map.mp (Table.mem_keys_ofEntries.mpr (List.mem_map_of_mem hd))
    obtain ⟨t, ht, htext⟩ := hentry m hm
    obtain ⟨t', ht', htext'⟩ := hentry m' hm'
    have heq : t = t' := eq_of_ofTexts h ht ht' (htext ▸ hkey) (htext' ▸ hkey')
    rw [← htext, ← htext', heq]
  last := by
    rintro before m after rfl hlast
    have hget := Table.get?_ofEntries before m.1 m.2 hlast
    exact get?_of_ofTexts h (Table.mem_of_get? hget)

theorem refines_members : decoder.read.Refines members.read Keeps := by
  refine Decoder.refines_of_andThen refines_texts ?_
  rintro _ ms s rfl hs
  exact keeps_of_ofTexts hs

/-- No member is dropped exactly if no key is repeated letter by letter. -/
theorem Keeps.size_eq_iff {s : Storage} {ms : List (String × String)} (h : s.Keeps ms) :
    s.size = ms.length ↔ (ms.map Prod.fst).Nodup := by
  have hsub : (ms.map Prod.fst).dedup.Sublist (ms.map Prod.fst) := List.dedup_sublist _
  rw [h.size, ← List.length_map Prod.fst, ← List.dedup_eq_self]
  exact ⟨hsub.eq_of_length, congrArg List.length⟩

theorem keeps_empty : empty.Keeps [] where
  size := rfl
  spelled := by simp
  last := by simp

theorem isSome_of_keeps {s : Option Storage} {ms : Option (List (String × String))}
    (h : Option.Rel Keeps s ms) : s.isSome = ms.isSome := by
  cases h <;> rfl

/-- An account without a storage object keeps nothing. -/
theorem keeps_getD {s : Option Storage} {ms : Option (List (String × String))}
    (h : Option.Rel Keeps s ms) : (s.getD empty).Keeps (ms.getD []) := by
  cases h with
  | none => exact keeps_empty
  | some hkeeps => exact hkeeps

end Storage

/-! ### Accounts -/

namespace Account

/-- An account as its document has it, with the storage members as they stand. -/
structure Outline where
  code : Bytes
  balance : Word
  nonce : Word
  storage : List (String × String)
deriving DecidableEq

namespace Outline

/-- The parts of an outline that were met so far. -/
structure Draft where
  code : Option Bytes := none
  balance : Option Word := none
  nonce : Option Word := none
  storage : Option (List (String × String)) := none

def record : Record Draft Outline where
  title := "AccountState"
  fields := [
    .of "code" true Draft.code (fun a d => { d with code := some a }) HexText.bytes,
    .of "balance" false Draft.balance (fun a d => { d with balance := some a }) HexText.integer,
    .of "nonce" false Draft.nonce (fun a d => { d with nonce := some a }) HexText.integer,
    .of "storage" true Draft.storage (fun a d => { d with storage := some a }) Storage.members]
  blank := {}
  build d := do
    let balance ← required "balance" d.balance
    let nonce ← required "nonce" d.nonce
    pure { code := d.code.getD [], balance, nonce, storage := d.storage.getD [] }

def decoder : Decoder Outline := record.decoder

def toValue (o : Outline) : Value :=
  .object [
    ("code", .text (Hex.marked o.code)),
    ("balance", .text (Hex.wordText o.balance)),
    ("nonce", .text (Hex.wordText o.nonce)),
    ("storage", .object (o.storage.map fun m => (m.1, .text m.2)))]

theorem reads_outline (o : Outline) : decoder.Reads o.toValue o := by
  have hfolds : Reader.Folds record.readMember record.blank
      [("code", .text (Hex.marked o.code)), ("balance", .text (Hex.wordText o.balance)),
        ("nonce", .text (Hex.wordText o.nonce)),
        ("storage", .object (o.storage.map fun m => (m.1, .text m.2)))]
      ⟨some o.code, some o.balance, some o.nonce, some o.storage⟩ := by
    refine .cons (Record.readMember_field rfl rfl (Decoder.reads_field (HexText.reads_bytes _))) ?_
    refine .cons (Record.readMember_field rfl rfl (Decoder.reads_field (HexText.reads_integer _))) ?_
    refine .cons (Record.readMember_field rfl rfl (Decoder.reads_field (HexText.reads_integer _))) ?_
    refine .cons (Record.readMember_field rfl rfl
      (Decoder.reads_field (Storage.reads_members o.storage))) ?_
    exact .nil _
  exact Record.reads_object hfolds rfl

end Outline

/-- The account is what the outline says, but for storage members that are dropped. -/
structure Shows (a : Account) (o : Outline) : Prop where
  code : a.code = o.code
  balance : a.balance = o.balance
  nonce : a.nonce = o.nonce
  storage : a.storage.Keeps o.storage

structure Draft.Shows (d : Draft) (o : Outline.Draft) : Prop where
  code : d.code = o.code
  balance : d.balance = o.balance
  nonce : d.nonce = o.nonce
  storage : Option.Rel Storage.Keeps d.storage o.storage

theorem refines_fields :
    List.Forall₂ (Field.Refines Draft.Shows) record.fields Outline.record.fields := by
  refine .cons ?code (.cons ?balance (.cons ?nonce (.cons ?storage .nil)))
  case code => exact Field.refines_same (fun _ _ h => h.code) fun _ _ _ h => { h with code := rfl }
  case balance =>
    exact Field.refines_same (fun _ _ h => h.balance) fun _ _ _ h => { h with balance := rfl }
  case nonce =>
    exact Field.refines_same (fun _ _ h => h.nonce) fun _ _ _ h => { h with nonce := rfl }
  case storage =>
    refine Field.refines_of Storage.refines_members ?_ ?_
    · exact fun _ _ h => Storage.isSome_of_keeps h.storage
    · exact fun _ _ _ _ hkeeps h => { h with storage := .some hkeeps }

theorem exists_outline {d : Draft} {o : Outline.Draft} {a : Account} (h : d.Shows o)
    (hbuild : record.build d = .ok a) : ∃ o', Outline.record.build o = .ok o' ∧ a.Shows o' := by
  simp only [record, bind_eq_ok] at hbuild
  obtain ⟨balance, hbalance, nonce, hnonce, ⟨⟩⟩ := hbuild
  simp only [Outline.record, bind_eq_ok, ← h.balance, ← h.nonce]
  refine ⟨_, ⟨balance, hbalance, nonce, hnonce, rfl⟩, congrArg (·.getD []) h.code, rfl, rfl, ?_⟩
  exact Storage.keeps_getD h.storage

theorem refines_outline : decoder.read.Refines Outline.decoder.read Shows :=
  Record.refines_read refines_fields ⟨rfl, rfl, rfl, .none⟩ fun _ _ _ => exists_outline

/-- Whatever account is read, the members of its storage object are the outline's. No member is
dropped exactly if no key is repeated letter by letter; keys of one word that are spelled
differently are refused. -/
theorem storage_kept {s rest : List Char} {a : Account} (h : decoder.read s = .ok (a, rest)) :
    ∃ o, Outline.decoder.read s = .ok (o, rest) ∧ a.Shows o ∧
      (a.storage.size = o.storage.length ↔ (o.storage.map Prod.fst).Nodup) := by
  obtain ⟨o, ho, hshows⟩ := refines_outline s a rest h
  exact ⟨o, ho, hshows, hshows.storage.size_eq_iff⟩

/-- What an outline says is read as an account if its storage can be put together. -/
theorem reads_of_outline {o : Outline} {s : Storage}
    (h : Storage.ofTexts (Table.ofEntries o.storage) = .ok s) :
    decoder.Reads o.toValue ⟨o.code, o.balance, o.nonce, s⟩ :=
  reads_parts o.code o.balance o.nonce ((Storage.reads_texts o.storage).andThen h)

/-- Three storage members, the first and the last under the same text. -/
def repeated : Outline := ⟨[], 0, 0, [("0x1", "0x5"), ("0x2", "0x6"), ("0x1", "0x7")]⟩

theorem read_repeated : decoder.read (repeated.toValue.render ++ []) =
    .ok (⟨[], 0, 0, (Storage.empty.insert 1 7).insert 2 6⟩, []) := by
  have hstorage : Storage.ofTexts (Table.ofEntries repeated.storage) =
      .ok ((Storage.empty.insert 1 7).insert 2 6) := eq_ok_of_toOption (by decide +kernel)
  exact reads_of_outline hstorage [] trivial

theorem storage_kept_repeated : ∃ a, decoder.read (repeated.toValue.render ++ []) = .ok (a, []) ∧
    ∃ o, Outline.decoder.read (repeated.toValue.render ++ []) = .ok (o, []) ∧ a.Shows o ∧
      (a.storage.size = o.storage.length ↔ (o.storage.map Prod.fst).Nodup) :=
  ⟨_, read_repeated, storage_kept read_repeated⟩

/-- A repeated key is not refused, and one of its members is dropped. -/
theorem not_size_eq_members : ¬ ∀ (s rest : List Char) (a : Account) (o : Outline),
    decoder.read s = .ok (a, rest) → Outline.decoder.read s = .ok (o, rest) →
      a.storage.size = o.storage.length := by
  intro hcounted
  have hsize := hcounted _ _ _ _ read_repeated (repeated.reads_outline [] trivial)
  exact absurd hsize (by decide)

end Account

end VectorReplay
