import VectorReplay.Proofs.Account.Document
import VectorReplay.TestVector

/-!
Test vectors in documents: a vector is written so that it reads back as it was.
-/
namespace VectorReplay.TestVector

open Json

theorem reads_block (text : String) :
    blockRecord.decoder.Reads (.object [("rlp", .text text)]) text := by
  have hfolds : Reader.Folds blockRecord.readMember blockRecord.blank [("rlp", .text text)]
      (some text) := by
    refine .cons (Record.readMember_field rfl rfl (Decoder.reads_field (Decoder.reads_string _))) ?_
    exact .nil _
  exact Record.reads_object hfolds rfl

/-- The network is the last member if there is one, and otherwise no member at all. -/
theorem folds_network (d : Draft) (hnew : d.network = none) (network : Option String) :
    Reader.Folds record.readMember d (network.toList.map fun n => ("network", .text n))
      { d with network := network.map some } := by
  cases network with
  | none =>
    rw [Option.map_none, ← hnew]
    exact .nil d
  | some n =>
    have hname : (Decoder.nullable Decoder.string).Reads (.text n) (some n) :=
      (Decoder.reads_string n).nullable (Value.isOpened_text n)
    have hunknown : d.network.isSome = false := by rw [hnew, Option.isSome_none]
    refine .cons (Record.readMember_field rfl hunknown (Decoder.reads_field hname)) ?_
    exact .nil _

theorem reads_vector {v : TestVector} (hpre : v.pre.Distinct) (hpost : v.post.Distinct) :
    record.decoder.Reads v.toValue v := by
  have hblocks : (Decoder.list blockRecord.decoder).Reads
      (.list (v.blocks.map fun b => .object [("rlp", .text b)])) v.blocks :=
    Decoder.reads_list (fun b _ => reads_block b) fun _ _ => Value.isOpened_object _
  have hparts : Reader.Folds record.readMember record.blank
      [("pre", v.pre.toValue), ("blocks", .list (v.blocks.map fun b => .object [("rlp", .text b)])),
        ("postState", v.post.toValue)] ⟨some v.pre, some v.blocks, some v.post, none⟩ := by
    refine .cons (Record.readMember_field rfl rfl (Decoder.reads_field (Accounts.reads_accounts hpre))) ?_
    refine .cons (Record.readMember_field rfl rfl (Decoder.reads_field hblocks)) ?_
    refine .cons (Record.readMember_field rfl rfl (Decoder.reads_field (Accounts.reads_accounts hpost))) ?_
    exact .nil _
  refine Record.reads_object (hparts.append (folds_network _ rfl v.network)) ?_
  cases v with
  | mk pre blocks post network => cases network <;> rfl

/-! ### Addresses of a vector that was read -/

/-- Neither list of accounts has an address twice, as far as it was met. -/
def Draft.Distinct (d : Draft) : Prop :=
  (∀ as, d.pre = some as → as.Distinct) ∧ ∀ as, d.post = some as → as.Distinct

theorem keeps_distinct : ∀ f ∈ record.fields, f.Keeps Draft.Distinct := by
  simp only [record, List.forall_mem_cons]
  refine ⟨?pre, ?blocks, ?post, ?network, fun f hf => absurd hf List.not_mem_nil⟩
  case pre =>
    refine Field.keeps_of Accounts.distinct_of_decoder fun as d has hd => ⟨?_, hd.2⟩
    intro as' heq
    cases heq
    exact has
  case blocks => exact Field.keeps_of_free fun _ _ hd => hd
  case post =>
    refine Field.keeps_of Accounts.distinct_of_decoder fun as d has hd => ⟨hd.1, ?_⟩
    intro as' heq
    cases heq
    exact has
  case network => exact Field.keeps_of_free fun _ _ hd => hd

theorem distinct_of_build {d : Draft} {v : TestVector} (hd : d.Distinct)
    (h : record.build d = .ok v) : v.pre.Distinct ∧ v.post.Distinct := by
  simp only [record, bind_eq_ok] at h
  obtain ⟨pre, hpre, blocks, -, post, hpost, hv⟩ := h
  cases hv
  exact ⟨hd.1 pre (eq_some_of_required hpre), hd.2 post (eq_some_of_required hpost)⟩

theorem distinct_of_decode {text : String} {v : TestVector} (h : decode text = .ok v) :
    v.pre.Distinct ∧ v.post.Distinct := by
  have hblank : Draft.Distinct record.blank := by
    constructor
    · intro as heq
      cases heq
    · intro as heq
      cases heq
  have hread := Record.ensures_read hblank keeps_distinct fun d v => distinct_of_build
  exact Decoder.ensures_decode hread h

/-! ### The round trip -/

/-- What is written for a vector reads back as the vector exactly if no list of accounts has an
address twice; every vector that was read from a text, however it was spelled, is one of those. -/
theorem decode_encode_iff (v : TestVector) :
    (decode (encode v) = .ok v ↔ v.pre.Distinct ∧ v.post.Distinct) ∧
      ∀ text, decode text = .ok v → decode (encode v) = .ok v := by
  have hback (h : v.pre.Distinct ∧ v.post.Distinct) : decode (encode v) = .ok v :=
    (reads_vector h.1 h.2).decode
  refine ⟨⟨distinct_of_decode, hback⟩, ?_⟩
  intro text htext
  exact hback (distinct_of_decode htext)

/-- Addresses that descend, integers of an odd number of digits, an empty code and text to escape. -/
def motley : TestVector where
  pre := [
    (FixedBytes.ofNat 20 2, ⟨[], 0xabc, 0, Storage.empty.insert 256 5⟩),
    (FixedBytes.ofNat 20 1, ⟨[0x60, 0x00], 0, BitVec.allOnes 256, .empty⟩)]
  blocks := ["", "0xC0 \"\\\n"]
  post := []
  network := some "Paris\t☉"

theorem decode_encode_motley : (motley.pre.Distinct ∧ motley.post.Distinct) ∧
    decode (encode motley) = .ok motley := by
  have distinct : motley.pre.Distinct ∧ motley.post.Distinct := by decide
  exact ⟨distinct, (decode_encode_iff motley).1.mpr distinct⟩

end VectorReplay.TestVector
