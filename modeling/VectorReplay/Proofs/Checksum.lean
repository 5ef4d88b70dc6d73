import VectorReplay.Checksum
import VectorReplay.Proofs.Hex

/-!
A checksum changes the case of letters only: whatever the hash, the text of an address spells the address
and reads back as it.
-/
namespace VectorReplay.Checksum

theorem toLower_toUpper_digit : ∀ n : Fin 16, (Hex.digit n).toUpper.toLower = Hex.digit n := by
  decide

theorem map_toLower_raise {s : List Char} (hs : ∀ c ∈ s, ∃ n : Fin 16, c = Hex.digit n) (h : Bytes)
    (i : Nat) : (raise h i s).map Char.toLower = s := by
  induction s generalizing i with
  | nil => rfl
  | cons c s ih =>
    obtain ⟨n, rfl⟩ := hs c (by simp)
    have hrest := ih (fun d hd => hs d (by simp [hd])) (i + 1)
    rw [raise, List.map_cons, hrest]
    congr 1
    split
    · exact toLower_toUpper_digit n
    · exact Hex.toLower_digit n

theorem spells_raise (b h : Bytes) (i : Nat) : Hex.Spells (raise h i (Hex.digits b)) b :=
  map_toLower_raise (fun _ hc => Hex.exists_digit_of_mem hc) h i

/-- The text of an address reads back as the address. -/
theorem decode_text (hash : Bytes → Hash) (a : Address) :
    Hex.decode (Hex.stripMark (text hash a)) = .ok a.bytes :=
  Hex.decode_behind_mark (spells_raise _ _ 0)

end VectorReplay.Checksum
