import VectorReplay.Proofs.Block.Reading

/-!
The language of blocks: which byte strings are decoded at all. The grammar below names sizes and
ranges only; it does not say what the fields mean.
-/
namespace VectorReplay

/-- The type bytes with their kinds and numbers of fields. -/
def Kind.envelopes : List (UInt8 × Kind × Nat) :=
  [(1, .accessList, 11), (2, .dynamicFee, 12), (3, .blob, 14), (4, .setCode, 13)]

theorem Kind.mem_envelopes_iff {byte : UInt8} {kind : Kind} {count : Nat} :
    (byte, kind, count) ∈ envelopes ↔ ofByte? byte = some kind ∧ count = kind.fieldCount := by
  constructor
  · intro h
    simp only [envelopes, List.mem_cons, Prod.mk.injEq, List.not_mem_nil, or_false] at h
    rcases h with ⟨rfl, rfl, rfl⟩ | ⟨rfl, rfl, rfl⟩ | ⟨rfl, rfl, rfl⟩ | ⟨rfl, rfl, rfl⟩ <;> decide
  · rintro ⟨h, rfl⟩
    unfold ofByte? at h
    split_ifs at h with h1 h2 h3 h4
    all_goals
      cases h
      subst_vars
      decide

namespace Block

structure HeaderFields (fields : List Bytes) : Prop where
  length : 15 ≤ fields.length
  coinbase : ∃ s, StringAt fields 2 s ∧ s.length = 20
  number : ∃ s, StringAt fields 8 s ∧ s.length ≤ 32
  gasLimit : ∃ s, StringAt fields 9 s ∧ s.length ≤ 32
  gasUsed : ∃ s, StringAt fields 10 s ∧ s.length ≤ 32
  timestamp : ∃ s, StringAt fields 11 s ∧ s.length ≤ 32 ∧ Bytes.toNat s < 2 ^ 64
  baseFee : 15 < fields.length → ∃ s, StringAt fields 15 s ∧ s.length ≤ 32

structure LegacyFields (fields : List Bytes) : Prop where
  length : fields.length = 9
  nonce : ∃ s, StringAt fields 0 s ∧ s.length ≤ 32
  /-- The last `v` is the one of the largest chain id of 64 bits. -/
  signature : ∃ v, StringAt fields 6 v ∧ v.length ≤ 32 ∧
    (Bytes.toNat v = 27 ∨ Bytes.toNat v = 28 ∨ 35 ≤ Bytes.toNat v ∧ Bytes.toNat v ≤ 2 ^ 65 + 34)

structure TypedFields (count : Nat) (fields : List Bytes) : Prop where
  length : fields.length = count
  chainId : ∃ s, StringAt fields 0 s ∧ s.length ≤ 32 ∧ Bytes.toNat s < 2 ^ 64
  nonce : ∃ s, StringAt fields 1 s ∧ s.length ≤ 32

inductive IsTransaction (b : Bytes) : Prop
  | legacy {fields : List Bytes} (list : Rlp.IsList b fields) (shape : LegacyFields fields)
  | typed {byte : UInt8} {kind : Kind} {count : Nat} {body : Bytes} {fields : List Bytes}
      (string : Rlp.IsString b (byte :: body)) (envelope : (byte, kind, count) ∈ Kind.envelopes)
      (list : Rlp.IsList body fields) (shape : TypedFields count fields)

inductive IsBlock (b : Bytes) : Prop
  | intro {head list : Bytes} {rest fields items : List Bytes}
      (parts : Rlp.IsList b (head :: list :: rest)) (headList : Rlp.IsList head fields)
      (headShape : HeaderFields fields) (itemList : Rlp.IsList list items)
      (itemShape : ∀ x ∈ items, IsTransaction x)

/-! ### Fields with a value -/

variable {fields : List Bytes} {i : Nat}

theorem exists_wordAt_iff :
    (∃ w, WordAt fields i w) ↔ ∃ s, StringAt fields i s ∧ s.length ≤ 32 := by
  constructor
  · rintro ⟨w, s, hs, hlen, -⟩
    exact ⟨s, hs, hlen⟩
  · rintro ⟨s, hs, hlen⟩
    exact ⟨_, s, hs, hlen, rfl⟩

theorem exists_uint64At_iff : (∃ n, UInt64At fields i n) ↔
    ∃ s, StringAt fields i s ∧ s.length ≤ 32 ∧ Bytes.toNat s < 2 ^ 64 := by
  constructor
  · rintro ⟨n, s, hs, hlen, hn⟩
    exact ⟨s, hs, hlen, by rw [← hn]; exact n.toNat_lt⟩
  · rintro ⟨s, hs, hlen, hlt⟩
    exact ⟨UInt64.ofNat (Bytes.toNat s), s, hs, hlen, UInt64.toNat_ofNat_of_lt' hlt⟩

theorem exists_address_iff : (∃ a : Address, StringAt fields i a.bytes) ↔
    ∃ s, StringAt fields i s ∧ s.length = 20 := by
  constructor
  · rintro ⟨a, ha⟩
    exact ⟨a.bytes, ha, a.length_eq⟩
  · rintro ⟨s, hs, hlen⟩
    exact ⟨⟨s, hlen⟩, hs⟩

theorem exists_header_iff : (∃ h : Header, h.Reads fields) ↔ HeaderFields fields := by
  constructor
  · rintro ⟨h, hr⟩
    refine ⟨hr.count, exists_address_iff.mp ⟨_, hr.coinbase⟩, exists_wordAt_iff.mp ⟨_, hr.number⟩,
      exists_wordAt_iff.mp ⟨_, hr.gasLimit⟩, exists_wordAt_iff.mp ⟨_, hr.gasUsed⟩,
      exists_uint64At_iff.mp ⟨_, hr.timestamp⟩, fun hcount => ?_⟩
    obtain ⟨w, hw, -⟩ := (if_pos hcount).mp hr.baseFee
    exact exists_wordAt_iff.mp ⟨w, hw⟩
  · intro hf
    obtain ⟨coinbase, hcoinbase⟩ := exists_address_iff.mpr hf.coinbase
    obtain ⟨number, hnumber⟩ := exists_wordAt_iff.mpr hf.number
    obtain ⟨gasLimit, hlimit⟩ := exists_wordAt_iff.mpr hf.gasLimit
    obtain ⟨gasUsed, hused⟩ := exists_wordAt_iff.mpr hf.gasUsed
    obtain ⟨timestamp, htime⟩ := exists_uint64At_iff.mpr hf.timestamp
    have hfee : ∃ fee, Header.BaseFeeAt fields fee := by
      by_cases hcount : 15 < fields.length
      · obtain ⟨w, hw⟩ := exists_wordAt_iff.mpr (hf.baseFee hcount)
        exact ⟨some w, (if_pos hcount).mpr ⟨w, hw, rfl⟩⟩
      · exact ⟨none, (if_neg hcount).mpr rfl⟩
    obtain ⟨baseFee, hfee⟩ := hfee
    exact ⟨{ coinbase, number, gasLimit, gasUsed, timestamp, baseFee,
             hardfork := Hardfork.ofFieldCount fields.length },
      ⟨hf.length, hcoinbase, hnumber, hlimit, hused, htime, hfee, rfl⟩⟩

/-! ### Transactions -/

theorem exists_declaredBy_iff {v : Nat} : (∃ c, Transaction.DeclaredBy v c) ↔
    v = 27 ∨ v = 28 ∨ 35 ≤ v ∧ v ≤ 2 ^ 65 + 34 := by
  constructor
  · rintro ⟨c, ⟨hold, -⟩ | ⟨hnew, n, -, hn⟩⟩
    · rcases hold with h | h
      · exact .inl h
      · exact .inr (.inl h)
    · have hlt : n.toNat < 2 ^ 64 := n.toNat_lt
      exact .inr (.inr ⟨hnew, by omega⟩)
  · intro h
    by_cases hold : v = 27 ∨ v = 28
    · exact ⟨none, .inl ⟨hold, rfl⟩⟩
    · have hlt : (v - 35) / 2 < UInt64.size := by
        simp only [UInt64.size]
        omega
      exact ⟨some (UInt64.ofNat ((v - 35) / 2)),
        .inr ⟨by omega, _, rfl, UInt64.toNat_ofNat_of_lt' hlt⟩⟩

theorem exists_transaction_iff {x : Bytes} :
    (∃ t, Transaction.Reads x t) ↔ IsTransaction x := by
  constructor
  · rintro ⟨t, h⟩
    cases h with
    | @legacy xs v nonce c list count signature chain number =>
      obtain ⟨s, hs, hlen, rfl⟩ := signature
      rw [Word.toNat_ofBytes hlen] at chain
      exact .legacy list ⟨count, exists_wordAt_iff.mp ⟨_, number⟩, s, hs, hlen,
        exists_declaredBy_iff.mp ⟨_, chain⟩⟩
    | typed string envelope list count chain number =>
      exact .typed string (Kind.mem_envelopes_iff.mpr ⟨envelope, rfl⟩) list
        ⟨count, exists_uint64At_iff.mp ⟨_, chain⟩, exists_wordAt_iff.mp ⟨_, number⟩⟩
  · intro h
    cases h with
    | legacy list shape =>
      obtain ⟨s, hs, hlen, hv⟩ := shape.signature
      obtain ⟨c, hc⟩ := exists_declaredBy_iff.mpr hv
      obtain ⟨nonce, hn⟩ := exists_wordAt_iff.mpr shape.nonce
      rw [← Word.toNat_ofBytes hlen] at hc
      exact ⟨_, .legacy list shape.length ⟨s, hs, hlen, rfl⟩ hc hn⟩
    | typed string envelope list shape =>
      obtain ⟨hkind, hcount⟩ := Kind.mem_envelopes_iff.mp envelope
      obtain ⟨c, hc⟩ := exists_uint64At_iff.mpr shape.chainId
      obtain ⟨nonce, hn⟩ := exists_wordAt_iff.mpr shape.nonce
      exact ⟨_, .typed string hkind list (shape.length.trans hcount) hc hn⟩

/-- A byte string is decoded exactly if the grammar derives it. -/
theorem exists_decode_iff_isBlock (b : Bytes) : (∃ block, decode b = .ok block) ↔ IsBlock b := by
  constructor
  · rintro ⟨block, h⟩
    rw [decode_eq_ok] at h
    cases h with
    | intro parts headList headReads itemList itemReads =>
      refine .intro parts headList (exists_header_iff.mp ⟨_, headReads⟩) itemList fun x hx => ?_
      exact exists_transaction_iff.mp (exists_forall₂_iff.mp ⟨_, itemReads⟩ x hx)
  · intro h
    cases h with
    | intro parts headList headShape itemList itemShape =>
      obtain ⟨header, hh⟩ := exists_header_iff.mpr headShape
      obtain ⟨ts, hts⟩ := exists_forall₂_iff.mpr fun x hx =>
        exists_transaction_iff.mpr (itemShape x hx)
      exact ⟨_, decode_eq_ok.mpr (.intro parts headList hh itemList hts)⟩

end Block

end VectorReplay
