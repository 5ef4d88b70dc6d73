import VectorReplay.Proofs.Block.Language
import VectorReplay.Proofs.Hex
import VectorReplay.Proofs.Rlp.Canonical
import Mathlib

/-!
Blocks before they are encoded. Decoding undoes the encoding whatever the sizes of the fields, as
long as a number is spelled in at most 32 bytes.
-/
namespace VectorReplay

/-! ### Transactions -/

namespace Transaction

/-- A signed transaction by its fields: strings where it is looked at, encoded items elsewhere. -/
inductive Form
  | legacy (nonce : Bytes) (call : List Bytes) (v : Bytes) (signature : List Bytes)
  | typed (byte : UInt8) (kind : Kind) (chainId nonce : Bytes) (rest : List Bytes)

namespace Form

def fields : Form → List Bytes
  | .legacy nonce call v signature =>
    Rlp.encodeString nonce :: (call ++ Rlp.encodeString v :: signature)
  | .typed _ _ chainId nonce rest => Rlp.encodeString chainId :: Rlp.encodeString nonce :: rest

def encoded : Form → Bytes
  | f@(.legacy ..) => Rlp.encodeList f.fields
  | f@(.typed byte ..) => byte :: Rlp.encodeList f.fields

/-- What stands in the transaction list. -/
def item : Form → Bytes
  | f@(.legacy ..) => f.encoded
  | f@(.typed ..) => Rlp.encodeString f.encoded

/-- What a form said, number by number. -/
def transaction : Form → Transaction
  | f@(.legacy nonce _ v _) => {
      kind := .legacy
      chainId := if Bytes.toNat v = 27 ∨ Bytes.toNat v = 28 then none
        else some (UInt64.ofNat ((Bytes.toNat v - 35) / 2))
      nonce := Word.ofBytes nonce
      encoded := f.encoded }
  | f@(.typed _ kind chainId nonce _) => {
      kind
      chainId := some (UInt64.ofNat (Bytes.toNat chainId))
      nonce := Word.ofBytes nonce
      encoded := f.encoded }

/-- The fields have the number and the values that the kind asks for. -/
inductive Fits : Form → Prop
  | legacy {nonce v : Bytes} {call signature : List Bytes} (count : call.length = 5)
      (signatureCount : signature.length = 2) (number : nonce.length ≤ 32)
      (chain : Bytes.toNat v = 27 ∨ Bytes.toNat v = 28 ∨
        35 ≤ Bytes.toNat v ∧ (Bytes.toNat v - 35) / 2 < 2 ^ 64)
      (others : ∀ x ∈ call ++ signature, Rlp.WellFormed x) : Fits (.legacy nonce call v signature)
  | typed {byte : UInt8} {kind : Kind} {chainId nonce : Bytes} {rest : List Bytes}
      (envelope : (byte, kind, rest.length + 2) ∈ Kind.envelopes)
      (chain : Bytes.toNat chainId < 2 ^ 64) (number : nonce.length ≤ 32)
      (others : ∀ x ∈ rest, Rlp.WellFormed x) : Fits (.typed byte kind chainId nonce rest)

/-- The number that tells the chain is spelled in at most 32 bytes. -/
def Narrow : Form → Prop
  | .legacy _ _ v _ => v.length ≤ 32
  | .typed _ _ chainId _ _ => chainId.length ≤ 32

instance : DecidablePred Narrow
  | .legacy _ _ v _ => inferInstanceAs (Decidable (v.length ≤ 32))
  | .typed _ _ chainId _ _ => inferInstanceAs (Decidable (chainId.length ≤ 32))

theorem declaredBy {v : Nat} (h : v = 27 ∨ v = 28 ∨ 35 ≤ v ∧ (v - 35) / 2 < 2 ^ 64) :
    DeclaredBy v (if v = 27 ∨ v = 28 then none else some (UInt64.ofNat ((v - 35) / 2))) := by
  split
  next hold => exact .inl ⟨hold, rfl⟩
  next hold =>
    obtain ⟨hnew, hlt⟩ : 35 ≤ v ∧ (v - 35) / 2 < 2 ^ 64 := by tauto
    exact .inr ⟨hnew, _, rfl, UInt64.toNat_ofNat_of_lt' hlt⟩

end Form

end Transaction

namespace Rlp

theorem length_le_of_mem {items : List Bytes} {x : Bytes} (h : x ∈ items) :
    x.length ≤ (encodeList items).length :=
  (List.sublist_flatten_of_mem h).length_le.trans (length_le_encodeList items)

theorem isString_of_length {s : Bytes} (h : (encodeString s).length < 2 ^ 64) :
    IsString (encodeString s) s :=
  isString_encodeString ((length_le_encodeString s).trans_lt h)

theorem isList_of_length {items : List Bytes} (hw : ∀ x ∈ items, WellFormed x)
    (h : (encodeList items).length < 2 ^ 64) : IsList (encodeList items) items :=
  isList_iff.mpr ⟨rfl, (length_le_encodeList items).trans_lt h, hw⟩

end Rlp

/-- In a list that is not too large, an encoded string is read as the string. -/
theorem Block.stringAt_of_length {fields : List Bytes} {i : Nat} {s : Bytes}
    (size : (Rlp.encodeList fields).length < 2 ^ 64) (h : fields[i]? = some (Rlp.encodeString s)) :
    StringAt fields i s :=
  ⟨_, h, Rlp.isString_of_length
    ((Rlp.length_le_of_mem (List.mem_of_getElem? h)).trans_lt size)⟩

namespace Transaction

namespace Form

open Block (StringAt stringAt_of_length)

variable {f : Form}

theorem length_fields_le (f : Form) : (Rlp.encodeList f.fields).length ≤ f.item.length := by
  cases f with
  | legacy => exact le_rfl
  | typed byte kind chainId nonce rest =>
    refine le_trans ?_ (Rlp.length_le_encodeString _)
    simp [encoded]

theorem Fits.isList (fits : f.Fits) (size : (Rlp.encodeList f.fields).length < 2 ^ 64) :
    Rlp.IsList (Rlp.encodeList f.fields) f.fields := by
  have hstring (s : Bytes) (hs : Rlp.encodeString s ∈ f.fields) :
      Rlp.WellFormed (Rlp.encodeString s) :=
    .string (Rlp.isString_of_length ((Rlp.length_le_of_mem hs).trans_lt size))
  refine Rlp.isList_of_length (fun x hx => ?_) size
  cases fits with
  | legacy _ _ _ _ others =>
    have hx' := hx
    simp only [fields, List.mem_cons, List.mem_append] at hx'
    rcases hx' with rfl | hcall | rfl | hsignature
    · exact hstring _ hx
    · exact others x (List.mem_append_left _ hcall)
    · exact hstring _ hx
    · exact others x (List.mem_append_right _ hsignature)
  | typed _ _ _ others =>
    have hx' := hx
    simp only [fields, List.mem_cons] at hx'
    rcases hx' with rfl | rfl | hrest
    · exact hstring _ hx
    · exact hstring _ hx
    · exact others x hrest

theorem stringAt_v {nonce v : Bytes} {call signature : List Bytes} (count : call.length = 5)
    (size : (Rlp.encodeList (Form.legacy nonce call v signature).fields).length < 2 ^ 64) :
    StringAt (Form.legacy nonce call v signature).fields 6 v :=
  stringAt_of_length size (by simp [fields, count])

theorem Fits.wellFormed_item (fits : f.Fits) (size : f.item.length < 2 ^ 64) :
    Rlp.WellFormed f.item := by
  cases f with
  | legacy => exact .list (fits.isList size).frame
  | typed => exact .string (Rlp.isString_of_length size)

/-- An encoded form is read as what it says. -/
theorem Fits.reads (fits : f.Fits) (narrow : f.Narrow) (size : f.item.length < 2 ^ 64) :
    Reads f.item f.transaction := by
  have hsize := (length_fields_le f).trans_lt size
  have hlist := fits.isList hsize
  cases fits with
  | legacy count signatureCount number chain others =>
    refine .legacy hlist ?_ ⟨_, stringAt_v count hsize, narrow, rfl⟩ ?_
      ⟨_, stringAt_of_length hsize rfl, number, rfl⟩
    · simp [fields, count, signatureCount, Kind.fieldCount]
    · rw [Word.toNat_ofBytes narrow]
      exact declaredBy chain
  | typed envelope chain number others =>
    obtain ⟨hkind, hcount⟩ := Kind.mem_envelopes_iff.mp envelope
    exact .typed (Rlp.isString_of_length size) hkind hlist (by rw [← hcount]; rfl)
      ⟨_, stringAt_of_length hsize rfl, narrow, UInt64.toNat_ofNat_of_lt' chain⟩
      ⟨_, stringAt_of_length hsize rfl, number, rfl⟩

/-- Only narrow forms are read at all. -/
theorem Fits.narrow_of_reads (fits : f.Fits) (size : f.item.length < 2 ^ 64) {t : Transaction}
    (h : Reads f.item t) : f.Narrow := by
  have hsize := (length_fields_le f).trans_lt size
  have hlist := fits.isList hsize
  cases fits with
  | legacy count signatureCount number chain others =>
    cases h with
    | legacy list _ signature =>
      obtain ⟨held, hheld, hlen, -⟩ := signature
      rw [list.unique hlist] at hheld
      rwa [hheld.unique (stringAt_v count hsize)] at hlen
    | typed string => exact absurd hlist string.not_isList
  | @typed byte kind chainId nonce rest envelope chain number others =>
    have hstring := Rlp.isString_of_length size
    cases h with
    | legacy list => exact absurd list hstring.not_isList
    | typed string _ list _ chainAt =>
      have hbody := hstring.unique string
      simp only [encoded, List.cons.injEq] at hbody
      rw [← hbody.2] at list
      obtain ⟨held, hheld, hlen, -⟩ := chainAt
      rw [list.unique hlist] at hheld
      rwa [hheld.unique (stringAt_of_length hsize rfl)] at hlen

end Form

end Transaction

/-! ### Blocks -/

namespace Block

/-- A block by the strings of its header, its transactions, and further items as encoded. -/
structure Form where
  header : List Bytes
  transactions : List Transaction.Form
  rest : List Bytes

namespace Form

def encode (f : Form) : Bytes :=
  Rlp.encodeList (Rlp.encodeList (f.header.map Rlp.encodeString) ::
    Rlp.encodeList (f.transactions.map Transaction.Form.item) :: f.rest)

structure Fits (f : Form) : Prop where
  count : 15 ≤ f.header.length
  coinbase : ∀ s ∈ f.header[2]?, s.length = 20
  words : ∀ i ∈ [8, 9, 10, 15], ∀ s ∈ f.header[i]?, s.length ≤ 32
  timestamp : ∀ s ∈ f.header[11]?, Bytes.toNat s < 2 ^ 64
  transactions : ∀ t ∈ f.transactions, t.Fits
  rest : ∀ x ∈ f.rest, Rlp.WellFormed x
  size : f.encode.length < 2 ^ 64

/-- The numbers that are bounded by value are spelled in at most 32 bytes as well. -/
structure Narrow (f : Form) : Prop where
  timestamp : ∀ s ∈ f.header[11]?, s.length ≤ 32
  transactions : ∀ t ∈ f.transactions, t.Narrow

/-- The big-endian value of a field of the header. -/
def valueAt (f : Form) (i : Nat) : Option Nat :=
  f.header[i]?.map Bytes.toNat

/-- What a form says of its header. -/
structure Says (f : Form) (h : Header) : Prop where
  coinbase : f.header[2]? = some h.coinbase.bytes
  number : f.valueAt 8 = some h.number.toNat
  gasLimit : f.valueAt 9 = some h.gasLimit.toNat
  gasUsed : f.valueAt 10 = some h.gasUsed.toNat
  timestamp : f.valueAt 11 = some h.timestamp.toNat
  baseFee : f.valueAt 15 = h.baseFee.map BitVec.toNat
  hardfork : h.hardfork = Hardfork.ofFieldCount f.header.length

variable {f : Form} {i : Nat} {s : Bytes}

theorem Fits.headerSize (fits : f.Fits) :
    (Rlp.encodeList (f.header.map Rlp.encodeString)).length < 2 ^ 64 :=
  (Rlp.length_le_of_mem (by simp)).trans_lt fits.size

theorem Fits.transactionsSize (fits : f.Fits) :
    (Rlp.encodeList (f.transactions.map Transaction.Form.item)).length < 2 ^ 64 :=
  (Rlp.length_le_of_mem (by simp)).trans_lt fits.size

theorem Fits.stringAt (fits : f.Fits) (h : f.header[i]? = some s) :
    StringAt (f.header.map Rlp.encodeString) i s :=
  stringAt_of_length fits.headerSize (by rw [List.getElem?_map, h]; rfl)

theorem Fits.wordAt (fits : f.Fits) (h : f.header[i]? = some s) (hlen : s.length ≤ 32) :
    WordAt (f.header.map Rlp.encodeString) i (Word.ofBytes s) ∧
      f.valueAt i = some (Word.ofBytes s).toNat :=
  ⟨⟨s, fits.stringAt h, hlen, rfl⟩, by rw [valueAt, h, Word.toNat_ofBytes hlen]; rfl⟩

/-- An encoded header is read as what the form says of it. -/
theorem exists_header (fits : f.Fits) (narrow : f.Narrow) :
    ∃ h : Header, h.Reads (f.header.map Rlp.encodeString) ∧ f.Says h := by
  have hcount := fits.count
  have hfield (i : Nat) (hi : i < 15) : ∃ s, f.header[i]? = some s :=
    ⟨_, List.getElem?_eq_getElem (by omega)⟩
  obtain ⟨coinbase, hcoinbase⟩ := hfield 2 (by omega)
  obtain ⟨number, hnumber⟩ := hfield 8 (by omega)
  obtain ⟨gasLimit, hlimit⟩ := hfield 9 (by omega)
  obtain ⟨gasUsed, hused⟩ := hfield 10 (by omega)
  obtain ⟨timestamp, htime⟩ := hfield 11 (by omega)
  obtain ⟨numberAt, saidNumber⟩ := fits.wordAt hnumber (fits.words 8 (by simp) _ hnumber)
  obtain ⟨limitAt, saidLimit⟩ := fits.wordAt hlimit (fits.words 9 (by simp) _ hlimit)
  obtain ⟨usedAt, saidUsed⟩ := fits.wordAt hused (fits.words 10 (by simp) _ hused)
  have hseconds := UInt64.toNat_ofNat_of_lt' (fits.timestamp _ htime)
  obtain ⟨fee, hfee, saidFee⟩ : ∃ fee, Header.BaseFeeAt (f.header.map Rlp.encodeString) fee ∧
      f.valueAt 15 = fee.map BitVec.toNat := by
    cases hfee : f.header[15]? with
    | none =>
      have hle := List.getElem?_eq_none_iff.mp hfee
      exact ⟨none, (if_neg (by simpa using hle)).mpr rfl, by rw [valueAt, hfee]; rfl⟩
    | some fee =>
      have hlt : 15 < f.header.length := (List.getElem?_eq_some_iff.mp hfee).1
      obtain ⟨hw, said⟩ := fits.wordAt hfee (fits.words 15 (by simp) _ hfee)
      exact ⟨some (Word.ofBytes fee), (if_pos (by simpa using hlt)).mpr ⟨_, hw, rfl⟩, said⟩
  refine ⟨{
      coinbase := ⟨coinbase, fits.coinbase _ hcoinbase⟩
      number := _, gasLimit := _, gasUsed := _
      timestamp := UInt64.ofNat (Bytes.toNat timestamp)
      baseFee := fee
      hardfork := Hardfork.ofFieldCount f.header.length },
    ⟨by simpa [Header.minFields] using hcount, fits.stringAt hcoinbase, numberAt, limitAt, usedAt,
      ⟨timestamp, fits.stringAt htime, narrow.timestamp _ htime, hseconds⟩, hfee, by simp⟩,
    ⟨hcoinbase, saidNumber, saidLimit, saidUsed, ?_, saidFee, rfl⟩⟩
  rw [valueAt, htime, hseconds]
  rfl

theorem reads_transactions (fits : f.Fits) (narrow : f.Narrow) :
    List.Forall₂ Transaction.Reads (f.transactions.map Transaction.Form.item)
      (f.transactions.map Transaction.Form.transaction) := by
  rw [List.forall₂_map_left_iff, List.forall₂_map_right_iff, List.forall₂_same]
  intro t ht
  refine (fits.transactions t ht).reads (narrow.transactions t ht) ?_
  exact (Rlp.length_le_of_mem (List.mem_map_of_mem ht)).trans_lt fits.transactionsSize

theorem Fits.isList_header (fits : f.Fits) :
    Rlp.IsList (Rlp.encodeList (f.header.map Rlp.encodeString))
      (f.header.map Rlp.encodeString) := by
  refine Rlp.isList_of_length (fun x hx => ?_) fits.headerSize
  have hsize := (Rlp.length_le_of_mem hx).trans_lt fits.headerSize
  obtain ⟨s, hs, rfl⟩ := List.mem_map.mp hx
  exact .string (Rlp.isString_of_length hsize)

theorem Fits.isList_transactions (fits : f.Fits) :
    Rlp.IsList (Rlp.encodeList (f.transactions.map Transaction.Form.item))
      (f.transactions.map Transaction.Form.item) := by
  refine Rlp.isList_of_length (fun x hx => ?_) fits.transactionsSize
  have hsize := (Rlp.length_le_of_mem hx).trans_lt fits.transactionsSize
  obtain ⟨t, ht, rfl⟩ := List.mem_map.mp hx
  exact (fits.transactions t ht).wellFormed_item hsize

theorem Fits.isList (fits : f.Fits) : Rlp.IsList f.encode
    (Rlp.encodeList (f.header.map Rlp.encodeString) ::
      Rlp.encodeList (f.transactions.map Transaction.Form.item) :: f.rest) := by
  refine Rlp.isList_of_length (fun x hx => ?_) fits.size
  simp only [List.mem_cons] at hx
  rcases hx with rfl | rfl | hx
  · exact .list fits.isList_header.frame
  · exact .list fits.isList_transactions.frame
  · exact fits.rest x hx

/-- Decoding undoes encoding. -/
theorem Fits.exists_decode (fits : f.Fits) (narrow : f.Narrow) :
    ∃ header, f.Says header ∧ decode f.encode =
      .ok { header, transactions := f.transactions.map Transaction.Form.transaction } := by
  obtain ⟨header, hreads, said⟩ := exists_header fits narrow
  exact ⟨header, said, decode_eq_ok.mpr (.intro fits.isList fits.isList_header hreads
    fits.isList_transactions (reads_transactions fits narrow))⟩

theorem Says.unique {h h' : Header} (a : f.Says h) (b : f.Says h') : h = h' := by
  have hword {x y : Word} {n : Option Nat} (hx : n = some x.toNat) (hy : n = some y.toNat) :
      x = y :=
    BitVec.eq_of_toNat_eq (Option.some.inj (hx.symm.trans hy))
  have hcoinbase := FixedBytes.ext (Option.some.inj (a.coinbase.symm.trans b.coinbase))
  have htime := UInt64.toNat_inj.mp (Option.some.inj (a.timestamp.symm.trans b.timestamp))
  have hfee : h.baseFee = h'.baseFee :=
    Option.map_injective (fun _ _ => BitVec.eq_of_toNat_eq) (a.baseFee.symm.trans b.baseFee)
  cases h
  cases h'
  rw [Header.mk.injEq]
  exact ⟨hcoinbase, hword a.number b.number, hword a.gasLimit b.gasLimit, hword a.gasUsed b.gasUsed,
    htime, hfee, a.hardfork.trans b.hardfork.symm⟩

theorem Fits.decode_encode (fits : f.Fits) (narrow : f.Narrow) {header : Header}
    (said : f.Says header) : decode f.encode =
      .ok { header, transactions := f.transactions.map Transaction.Form.transaction } := by
  obtain ⟨header', said', h⟩ := fits.exists_decode narrow
  rwa [said.unique said']

/-- Of the blocks that fit, only narrow ones are decoded at all. -/
theorem Fits.narrow_of_decode (fits : f.Fits) {block : Block} (h : decode f.encode = .ok block) :
    f.Narrow := by
  rw [decode_eq_ok] at h
  cases h with
  | @intro head list rest fields items header ts parts headList headReads itemList itemReads =>
    have hparts := parts.unique fits.isList
    simp only [List.cons.injEq] at hparts
    obtain ⟨rfl, rfl, rfl⟩ := hparts
    obtain rfl := headList.unique fits.isList_header
    obtain rfl := itemList.unique fits.isList_transactions
    constructor
    · intro s hs
      obtain ⟨held, hheld, hlen, -⟩ := headReads.timestamp
      rwa [hheld.unique (fits.stringAt hs)] at hlen
    · intro t ht
      have hmem := List.mem_map_of_mem (f := Transaction.Form.item) ht
      obtain ⟨u, hu⟩ := exists_forall₂_iff.mp ⟨_, itemReads⟩ _ hmem
      exact (fits.transactions t ht).narrow_of_reads
        ((Rlp.length_le_of_mem hmem).trans_lt fits.transactionsSize) hu

/-- The hexadecimal text of an encoded block is decoded to what the block says. -/
theorem ofHex_spelled {mark text : List Char} (fits : f.Fits) (narrow : f.Narrow)
    (hm : Hex.IsMark mark) (ht : Hex.Spells text f.encode) :
    ∃ header, f.Says header ∧ ofHex (String.ofList (mark ++ text)) =
      .ok { header, transactions := f.transactions.map Transaction.Form.transaction } := by
  obtain ⟨header, said, hdecode⟩ := fits.exists_decode narrow
  refine ⟨header, said, ?_⟩
  rw [ofHex, Hex.decode_stripMark hm ht]
  exact hdecode

/-- Both kinds of transactions, a base fee and a further item. -/
def mixed : Form where
  header := List.replicate 2 [] ++ [List.replicate 20 7] ++ List.replicate 5 [] ++
    [[5], [6], [], [7], [], [], [], [9]]
  transactions := [
    .legacy [1] (List.replicate 5 [0x80]) [37] (List.replicate 2 [0x80]),
    .typed 1 .accessList [1] [2] (List.replicate 9 [0x80])]
  rest := [[0xC0]]

theorem wellFormed_empty : Rlp.WellFormed [0x80] ∧ Rlp.WellFormed [0xC0] :=
  ⟨.string (.framed (Rlp.framed_iff.mpr ⟨by decide, by decide⟩ : Rlp.Framed 0x80 [0x80] [])),
    .list (Rlp.framed_iff.mpr ⟨by decide, by decide⟩ : Rlp.Framed 0xC0 [0xC0] [])⟩

theorem mixed_fits : mixed.Fits where
  count := by decide
  coinbase := by decide
  words := by decide
  timestamp := by decide
  transactions := by
    have hempty (n : Nat) : ∀ x ∈ List.replicate n [0x80], Rlp.WellFormed x :=
      fun x hx => List.eq_of_mem_replicate hx ▸ wellFormed_empty.1
    intro t ht
    simp only [mixed, List.mem_cons, List.not_mem_nil, or_false] at ht
    rcases ht with rfl | rfl
    · exact .legacy rfl rfl (by decide) (by decide) (hempty 7)
    · exact .typed (by decide) (by decide) (by decide) (hempty 9)
  rest := by
    intro x hx
    rw [List.mem_singleton.mp hx]
    exact wellFormed_empty.2
  size := by decide_cbv

theorem mixed_narrow : mixed.Narrow where
  timestamp := by decide
  transactions := by decide

def mixedText : List Char :=
  ("F83fE48080940707070707070707070707070707070707070707808080808005" ++
    "06800780808009D8c90180808080802580808d01cB0102808080808080808080C0").toList

theorem spells_mixedText : Hex.Spells mixedText mixed.encode := by
  unfold Hex.Spells
  decide_cbv

theorem ofHex_mixedText : mixed.Fits ∧ mixed.Narrow ∧ Hex.IsMark ['0', 'X'] ∧
    Hex.Spells mixedText mixed.encode ∧
    ∃ header, mixed.Says header ∧ ofHex (String.ofList (['0', 'X'] ++ mixedText)) =
      .ok { header, transactions := mixed.transactions.map Transaction.Form.transaction } := by
  have hm : Hex.IsMark ['0', 'X'] := .inr (.inr rfl)
  exact ⟨mixed_fits, mixed_narrow, hm, spells_mixedText,
    ofHex_spelled mixed_fits mixed_narrow hm spells_mixedText⟩

/-- The time is one, on 33 bytes. -/
def padded : Form where
  header := List.replicate 2 [] ++ [List.replicate 20 0] ++ List.replicate 8 [] ++
    [List.replicate 32 0 ++ [1]] ++ List.replicate 3 []
  transactions := []
  rest := []

theorem padded_fits : padded.Fits where
  count := by decide
  coinbase := by decide
  words := by decide
  timestamp := by decide
  transactions := by simp [padded]
  rest := by simp [padded]
  size := by decide_cbv

/-- A small value is not enough. -/
theorem not_ofHex_padded : padded.Fits ∧ Hex.IsMark ['0', 'x'] ∧
    Hex.Spells (Hex.digits padded.encode) padded.encode ∧
    ¬ ∃ block, ofHex (String.ofList (['0', 'x'] ++ Hex.digits padded.encode)) = .ok block := by
  have hm : Hex.IsMark ['0', 'x'] := .inr (.inl rfl)
  have ht := Hex.spells_digits padded.encode
  refine ⟨padded_fits, hm, ht, ?_⟩
  rintro ⟨block, h⟩
  rw [ofHex, Hex.decode_stripMark hm ht] at h
  have hlong := (padded_fits.narrow_of_decode h).timestamp (List.replicate 32 0 ++ [1]) rfl
  simp at hlong

end Form

end Block

end VectorReplay
