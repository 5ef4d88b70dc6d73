import Mathlib.Data.List.GetD
import VectorReplay.CommandLine.Arguments
import VectorReplay.Proofs.Account.Document
import VectorReplay.Proofs.Bytes
import VectorReplay.Proofs.Checksum

/-!
The case of the letters in the text of an address, place by place, and the readers that do not heed
it: the text identifies the address under every hash.
-/
namespace VectorReplay

namespace Checksum

/-! ### Digits of a hash -/

theorem nibble_append {b c : Bytes} {i : Nat} (hi : i < 2 * b.length) :
    nibble (b ++ c) i = nibble b i := by
  have hget : (b ++ c).getD (i / 2) 0 = b.getD (i / 2) 0 := List.getD_append b c 0 _ (by omega)
  rw [nibble, hget]
  rfl

theorem nibble_last (b : Bytes) (x : UInt8) :
    nibble (b ++ [x]) (2 * b.length) = x.toNat / 16 ∧
      nibble (b ++ [x]) (2 * b.length + 1) = x.toNat % 16 := by
  have hget : (b ++ [x]).getD b.length 0 = x := by simp
  have hhigh : 2 * b.length / 2 = b.length := by omega
  have hlow : (2 * b.length + 1) / 2 = b.length := by omega
  constructor
  · rw [nibble, hhigh, hget, if_pos (by omega)]
  · rw [nibble, hlow, hget, if_neg (by omega)]

/-- The nibbles of a byte string are the digits of its value to the base of sixteen. -/
theorem nibble_eq {b : Bytes} {i : Nat} (hi : i < 2 * b.length) :
    nibble b i = Bytes.toNat b / 16 ^ (2 * b.length - 1 - i) % 16 := by
  induction b using List.reverseRecOn generalizing i with
  | nil => simp at hi
  | append_singleton b x ih =>
    have hx : x.toNat < 256 := x.toNat_lt
    have hlength : 2 * (b ++ [x]).length - 1 - i = 2 * b.length + 1 - i := by
      rw [List.length_append, List.length_singleton]
      omega
    have hrest : (Bytes.toNat b * 256 + x.toNat) / 256 = Bytes.toNat b := by omega
    rw [hlength, Bytes.toNat_concat]
    rw [List.length_append, List.length_singleton] at hi
    obtain hi | rfl | rfl : i < 2 * b.length ∨ i = 2 * b.length ∨ i = 2 * b.length + 1 := by omega
    · have hplace : 16 ^ (2 * b.length + 1 - i) = 256 * 16 ^ (2 * b.length - 1 - i) := by
        rw [show 2 * b.length + 1 - i = 2 + (2 * b.length - 1 - i) by omega, pow_add]
        rfl
      rw [nibble_append hi, ih hi, hplace, ← Nat.div_div_eq_div_mul, hrest]
    · rw [(nibble_last b x).1, Nat.add_sub_cancel_left, pow_one]
      omega
    · rw [(nibble_last b x).2, Nat.sub_self, pow_zero, Nat.div_one]
      omega

/-! ### Letters -/

/-- The letters are raised place by place. -/
theorem raise_eq_mapIdx (h : Bytes) (i : Nat) (s : List Char) : raise h i s =
    s.mapIdx fun k c => if c.isAlpha && 8 ≤ nibble h (i + k) then c.toUpper else c := by
  induction s generalizing i with
  | nil => rfl
  | cons c s ih =>
    rw [raise, ih, List.mapIdx_cons]
    simp only [Nat.add_zero, Nat.add_assoc, Nat.add_comm 1]

/-- Digits are in lower case, so that capital letters are those that were raised. -/
theorem isUpper_raised : ∀ (n : Fin 16) (high : Bool), ∀ c,
    c = (if (Hex.digit n).isAlpha && high then (Hex.digit n).toUpper else Hex.digit n) →
      c.isUpper = (c.isAlpha && high) := by
  simp only [forall_eq]
  decide

theorem exists_getElem?_raise {b h : Bytes} {i : Nat} (hi : i < 2 * b.length) :
    ∃ c, (raise h 0 (Hex.digits b))[i]? = some c ∧ c.isUpper = (c.isAlpha && 8 ≤ nibble h i) := by
  have hlt : i < (Hex.digits b).length := by rwa [Hex.length_digits]
  obtain ⟨n, hn⟩ := Hex.exists_digit_of_mem (List.getElem_mem hlt)
  rw [raise_eq_mapIdx, List.getElem?_mapIdx, List.getElem?_eq_getElem hlt, hn, Option.map_some,
    Nat.zero_add]
  exact ⟨_, rfl, isUpper_raised n _ _ rfl⟩

/-! ### The text of an address -/

/-- The hash that the letter case of the text follows. -/
abbrev digest (hash : Bytes → Hash) (a : Address) : Hash :=
  hash (Text.utf8 (Hex.digits a.bytes))

variable (hash : Bytes → Hash) (a : Address)

theorem spells_text : Hex.Spells (raise (digest hash a).bytes 0 (Hex.digits a.bytes)) a.bytes :=
  spells_raise _ _ 0

theorem toList_text : (text hash a).toList =
    '0' :: 'x' :: raise (digest hash a).bytes 0 (Hex.digits a.bytes) :=
  Hex.toList_mark _

theorem length_text : (text hash a).length = 42 := by
  have hlength := congrArg List.length (spells_text hash a)
  rw [List.length_map, Hex.length_digits, a.length_eq] at hlength
  rw [← String.length_toList, toList_text, List.length_cons, List.length_cons, hlength]

theorem toLower_text : (text hash a).toLower = Hex.marked a.bytes := by
  have hlower : (text hash a).toLower.toList = (text hash a).toList.map Char.toLower :=
    String.toList_map
  apply String.toList_injective
  rw [hlower, toList_text, List.map_cons, List.map_cons, spells_text, Hex.marked, Hex.encode,
    Hex.toList_mark]
  rfl

/-- Behind the mark, the letters in upper case are those at the large digits of the hash. -/
theorem exists_getElem?_text (i : Fin 40) : ∃ c, (text hash a).toList[i.val + 2]? = some c ∧
    (c.isUpper ↔ c.isAlpha ∧ 8 ≤ (digest hash a).toNat / 16 ^ (63 - i.val) % 16) := by
  have hnibble : nibble (digest hash a).bytes i = (digest hash a).toNat / 16 ^ (63 - i.val) % 16 := by
    have hdigest := (digest hash a).length_eq
    rw [nibble_eq (by omega), hdigest]
    rfl
  have hplace : i.val < 2 * a.bytes.length := by
    rw [a.length_eq]
    omega
  obtain ⟨c, hc, hupper⟩ := exists_getElem?_raise (h := (digest hash a).bytes) hplace
  refine ⟨c, by rw [toList_text]; exact hc, ?_⟩
  rw [hupper, Bool.and_eq_true, decide_eq_true_eq, hnibble]

end Checksum

/-! ### Readers -/

namespace Arguments

theorem isBlank_eq (y : UInt8) : isBlank y = Hex.Loose.isBlank y := by
  unfold isBlank Hex.Loose.isBlank
  ac_rfl

theorem parseAddress_of_spells {s : List Char} {a : Address} (h : Hex.Spells s a.bytes) :
    parseAddress ("0x" ++ String.ofList s) = some a := by
  have hclean : (Text.utf8 s).filter (!isBlank ·) = Text.utf8 s := by
    rw [List.filter_eq_self]
    intro y hy
    obtain ⟨n, hn⟩ := Hex.exists_value_of_spells h y hy
    rw [isBlank_eq, Hex.Loose.isBlank_of_value? hn]
    rfl
  unfold parseAddress
  simp only [Hex.toList_mark, hclean, Hex.decodeBytes_of_spells h, FixedBytes.ofBytes?_bytes]

end Arguments

namespace Checksum

/-- The text of an address is its lower-case form but for the letters at the places where the hash of this
form has a digit of at least eight, which are capitals. It reads back as the address, in documents and
among the arguments, so that no two addresses have one text. -/
theorem text_identifies :
    (∀ (hash : Bytes → Hash) (a : Address), (text hash a).length = 42 ∧
      (text hash a).toLower = Hex.marked a.bytes ∧
      ∀ i : Fin 40, ∃ c, (text hash a).toList[i.val + 2]? = some c ∧
        (c.isUpper ↔ c.isAlpha ∧
          8 ≤ (hash (Text.utf8 (Hex.digits a.bytes))).toNat / 16 ^ (63 - i.val) % 16)) ∧
    (∀ hash, Function.Injective (text hash)) ∧
    ∀ hash a, Json.HexText.parseFixed 20 (text hash a) = .ok a ∧
      Arguments.parseAddress (text hash a) = some a ∧
      Hex.decode (Hex.stripMark (text hash a)) = .ok a.bytes := by
  have hread (hash : Bytes → Hash) (a : Address) :
      Json.HexText.parseFixed 20 (text hash a) = .ok a :=
    Json.HexText.parseFixed_of_spells (spells_text hash a)
  refine ⟨fun hash a => ⟨length_text hash a, toLower_text hash a, exists_getElem?_text hash a⟩,
    fun hash a a' heq => ?injective, fun hash a => ⟨hread hash a, ?argument, decode_text hash a⟩⟩
  case injective =>
    have hsame := (hread hash a).symm.trans ((congrArg _ heq).trans (hread hash a'))
    exact Except.ok.inj hsame
  case argument => exact Arguments.parseAddress_of_spells (spells_text hash a)

example : text Keccak.hash (FixedBytes.ofNat 20 0x5aaeb6053f3e94c9b9a09f33669435e7ef1beaed) =
    "0x5aAeb6053F3E94C9b9A09f33669435E7Ef1BeAed" := by
  decide +kernel

end Checksum

end VectorReplay
