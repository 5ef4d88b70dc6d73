import VectorReplay.Proofs.Block.Reading
import VectorReplay.Proofs.Rlp.Reader

/-!
Headers that are extended. The layout of the fields and the version that their number implies keep to
each other, and fields behind those of a header change nothing that was read from it.
-/
namespace VectorReplay

/-! ### Versions by their number of fields -/

namespace Hardfork

theorem ofFieldCount_mono {m n : Nat} (h : m ≤ n) : ofFieldCount m ≤ ofFieldCount n := by
  change (ofFieldCount m).index ≤ (ofFieldCount n).index
  unfold ofFieldCount
  split_ifs <;> first | omega | decide

theorem london_le_ofFieldCount {n : Nat} : .london ≤ ofFieldCount n ↔ 15 < n := by
  change Hardfork.london.index ≤ (ofFieldCount n).index ↔ 15 < n
  unfold ofFieldCount
  split_ifs <;> simp only [index] <;> omega

end Hardfork

/-! ### Fields in front of further ones -/

namespace Block

variable {fields : List Bytes} {i : Nat} {what : String}

theorem listItems_eq_ok_iff_begins {b : Bytes} :
    listItems what b = .ok fields ↔ Rlp.Begins b fields := by
  rw [Rlp.begins_iff, listItems]
  split
  next h => simp [h, liftRlp_eq_ok]
  next h => simp [h]

theorem wellFormed_of_listItems {b : Bytes} (h : listItems what b = .ok fields) :
    ∀ x ∈ fields, Rlp.WellFormed x := by
  obtain ⟨front, rest, -, hlist⟩ := listItems_eq_ok_iff_begins.mp h
  exact hlist.wellFormed

theorem StringAt.append {held : Bytes} (h : StringAt fields i held) (more : List Bytes) :
    StringAt (fields ++ more) i held := by
  obtain ⟨item, hitem, hs⟩ := h
  have hi : i < fields.length := (List.getElem?_eq_some_iff.mp hitem).1
  exact ⟨item, by rw [List.getElem?_append_left hi, hitem], hs⟩

theorem WordAt.append {w : Word} (h : WordAt fields i w) (more : List Bytes) :
    WordAt (fields ++ more) i w := by
  obtain ⟨held, hs, hlen, hw⟩ := h
  exact ⟨held, hs.append more, hlen, hw⟩

theorem UInt64At.append {n : UInt64} (h : UInt64At fields i n) (more : List Bytes) :
    UInt64At (fields ++ more) i n := by
  obtain ⟨held, hs, hlen, hn⟩ := h
  exact ⟨held, hs.append more, hlen, hn⟩

theorem WordAt.unique {v w : Word} (hv : WordAt fields i v) (hw : WordAt fields i w) : v = w := by
  obtain ⟨a, ha, -, rfl⟩ := hv
  obtain ⟨b, hb, -, rfl⟩ := hw
  rw [ha.unique hb]

theorem UInt64At.unique {m n : UInt64} (hm : UInt64At fields i m) (hn : UInt64At fields i n) :
    m = n := by
  obtain ⟨a, ha, -, hm⟩ := hm
  obtain ⟨b, hb, -, hn⟩ := hn
  rw [← UInt64.toNat_inj, hm, hn, ha.unique hb]

end Block

/-! ### Headers -/

namespace Header

/-- What stays of a header that is extended. A base fee may be new, and the version later. -/
structure Persists (h h' : Header) : Prop where
  coinbase : h'.coinbase = h.coinbase
  number : h'.number = h.number
  gasLimit : h'.gasLimit = h.gasLimit
  gasUsed : h'.gasUsed = h.gasUsed
  timestamp : h'.timestamp = h.timestamp
  baseFee : ∀ w, h.baseFee = some w → h'.baseFee = some w
  hardfork : h.hardfork ≤ h'.hardfork

variable {fields more : List Bytes} {h h' : Header}

theorem Reads.baseFee_isSome_iff (hr : Reads fields h) :
    h.baseFee.isSome ↔ .london ≤ h.hardfork := by
  rw [hr.hardfork, Hardfork.london_le_ofFieldCount]
  have hfee := hr.baseFee
  unfold BaseFeeAt at hfee
  split at hfee
  next hlt =>
    obtain ⟨w, -, hw⟩ := hfee
    simp [hw, hlt]
  next hle => simp [hfee, hle]

theorem Reads.baseFee_append {w : Word} (hr : Reads fields h) (hr' : Reads (fields ++ more) h')
    (hw : h.baseFee = some w) : h'.baseFee = some w := by
  have hfee := hr.baseFee
  unfold BaseFeeAt at hfee
  split at hfee
  next hlt =>
    obtain ⟨v, hv, hsome⟩ := hfee
    have hlonger : 15 < (fields ++ more).length := by
      rw [List.length_append]
      omega
    obtain ⟨v', hv', hsome'⟩ := (if_pos hlonger).mp hr'.baseFee
    have hsame : v' = v := hv'.unique (hv.append more)
    rw [hsome', hsame, ← hsome, hw]
  next => cases hfee.symm.trans hw

theorem Reads.persists (hr : Reads fields h) (hr' : Reads (fields ++ more) h') :
    Persists h h' where
  coinbase := FixedBytes.ext (hr'.coinbase.unique (hr.coinbase.append more))
  number := hr'.number.unique (hr.number.append more)
  gasLimit := hr'.gasLimit.unique (hr.gasLimit.append more)
  gasUsed := hr'.gasUsed.unique (hr.gasUsed.append more)
  timestamp := hr'.timestamp.unique (hr.timestamp.append more)
  baseFee w := hr.baseFee_append hr'
  hardfork := by
    rw [hr.hardfork, hr'.hardfork, List.length_append]
    exact Hardfork.ofFieldCount_mono (Nat.le_add_right _ _)

/-- Fields behind a base fee can be any. -/
theorem Reads.append (hr : Reads fields h) (fee : h.baseFee.isSome) (more : List Bytes) :
    Reads (fields ++ more) { h with hardfork := Hardfork.ofFieldCount (fields ++ more).length } where
  count := by
    rw [List.length_append]
    exact hr.count.trans (Nat.le_add_right _ _)
  coinbase := hr.coinbase.append more
  number := hr.number.append more
  gasLimit := hr.gasLimit.append more
  gasUsed := hr.gasUsed.append more
  timestamp := hr.timestamp.append more
  baseFee := by
    have hlt : 15 < fields.length := by
      rwa [hr.baseFee_isSome_iff, hr.hardfork, Hardfork.london_le_ofFieldCount] at fee
    have hlonger : 15 < (fields ++ more).length := by
      rw [List.length_append]
      omega
    obtain ⟨w, hw, hsome⟩ := (if_pos hlt).mp hr.baseFee
    exact (if_pos hlonger).mpr ⟨w, hw.append more, hsome⟩
  hardfork := rfl

theorem decode_eq_ok_iff_reads {b : Bytes} (hfields : Block.listItems "header" b = .ok fields) :
    decode b = .ok h ↔ Reads fields h := by
  rw [decode, hfields]
  exact ofFields_eq_ok (Block.wellFormed_of_listItems hfields)

/-- A header has a base fee exactly from London on. Whatever fields are added behind its own, what was
read from it stays, and the version is not an earlier one; behind a base fee any fields are accepted. -/
theorem decode_extends {b : Bytes} (accepted : decode b = .ok h) :
    ∃ fields, Block.listItems "header" b = .ok fields ∧
      (h.baseFee.isSome ↔ .london ≤ h.hardfork) ∧
      ∀ b' more, Block.listItems "header" b' = .ok (fields ++ more) →
        (h.baseFee.isSome → ∃ h', decode b' = .ok h') ∧
        ∀ h', decode b' = .ok h' → Persists h h' := by
  obtain ⟨fields, hfields, -⟩ := bind_eq_ok.mp accepted
  have hr : Reads fields h := (decode_eq_ok_iff_reads hfields).mp accepted
  refine ⟨fields, hfields, hr.baseFee_isSome_iff, fun b' more hmore => ⟨fun fee => ?_, ?_⟩⟩
  · exact ⟨_, (decode_eq_ok_iff_reads hmore).mpr (hr.append fee more)⟩
  · intro h' accepted'
    exact hr.persists ((decode_eq_ok_iff_reads hmore).mp accepted')

/-- Fifteen fields, a coinbase and a limit among them. -/
def fifteen : List Bytes :=
  List.replicate 2 [0x80] ++ [0x94 :: List.replicate 20 7] ++ List.replicate 6 [0x80] ++ [[5]] ++
    List.replicate 5 [0x80]

/-- A base fee, a byte string and seven empty ones. -/
def nine : List Bytes :=
  [9] :: (0x94 :: List.replicate 20 1) :: List.replicate 7 [0x80]

/-- Nine fields more than the oldest layout has are three more than the newest one has, and the length
of the list is told in another way. -/
theorem decode_extends_past_layouts : (Rlp.encodeList fifteen).head? = some 0xE3 ∧
    (Rlp.encodeList (fifteen ++ nine)).head? = some 0xF8 ∧
    ∃ h h', decode (Rlp.encodeList fifteen) = .ok h ∧
      decode (Rlp.encodeList (fifteen ++ nine)) = .ok h' ∧
      h.hardfork = .berlin ∧ h'.hardfork = .prague ∧ Persists h h' := by
  let h : Header := {
    coinbase := ⟨List.replicate 20 7, rfl⟩, number := 0, gasLimit := 5, gasUsed := 0
    timestamp := 0, baseFee := none, hardfork := .berlin }
  let h' : Header := { h with baseFee := some 9, hardfork := .prague }
  have hfifteen : Block.listItems "header" (Rlp.encodeList fifteen) = .ok fifteen := by
    decide +kernel
  have hall : Block.listItems "header" (Rlp.encodeList (fifteen ++ nine)) =
      .ok (fifteen ++ nine) := by
    decide +kernel
  have hfirst : decode (Rlp.encodeList fifteen) = .ok h := by
    rw [decode, hfifteen]
    rfl
  have hlonger : decode (Rlp.encodeList (fifteen ++ nine)) = .ok h' := by
    rw [decode, hall]
    rfl
  refine ⟨by decide +kernel, by decide +kernel, h, h', hfirst, hlonger, rfl, rfl, ?_⟩
  obtain ⟨fields, hfields, -, hextended⟩ := decode_extends hfirst
  cases hfifteen.symm.trans hfields
  exact (hextended _ nine hall).2 h' hlonger

end Header

end VectorReplay
