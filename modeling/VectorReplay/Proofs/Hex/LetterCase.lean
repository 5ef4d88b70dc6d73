import VectorReplay.Proofs.Hex.Loose
import VectorReplay.Proofs.Hex.Numeral

/-!
Letters of either case in hexadecimal as nodes write it: a text that is read is read the same in lower
case, for its digits and blanks have the same places there and no other character is admitted.
-/
namespace VectorReplay.Hex.Loose

/-- Case makes no difference to blanks and digits. -/
theorem read_toLower : ∀ k : Fin 128, (Char.ofNat k).toLower.toNat < 128 ∧
    isBlank (UInt8.ofNat (Char.ofNat k).toLower.toNat) = isBlank (UInt8.ofNat k) ∧
    value? (UInt8.ofNat (Char.ofNat k).toLower.toNat) = value? (UInt8.ofNat k) := by
  decide +kernel

theorem lt_of_read {x : UInt8} (h : isBlank x = true ∨ ∃ n, value? x = some n) : x.toNat < 128 := by
  rcases h with h | ⟨n, h⟩
  · simp only [isBlank, Bool.or_eq_true, decide_eq_true_eq] at h
    rcases h with ((rfl | rfl) | rfl) | rfl <;> decide
  · exact (bounds_of_value? h).2.trans_lt (by decide)

/-- A character whose first byte is read is that byte, and reads the same in lower case. -/
theorem lower_of_read {c : Char} {x : UInt8} {rest : Bytes} (hc : String.utf8EncodeChar c = x :: rest)
    (hread : isBlank x = true ∨ ∃ n, value? x = some n) : rest = [] ∧
    ∃ y, String.utf8EncodeChar c.toLower = [y] ∧ isBlank y = isBlank x ∧ value? y = value? x ∧
      'x' ≠ c.toLower := by
  obtain ⟨hlt, rfl, rfl⟩ := eq_of_lead hc (lt_of_read hread)
  obtain ⟨hlower, hblank, hvalue⟩ := read_toLower ⟨c.toNat, hlt⟩
  rw [show Char.ofNat c.toNat = c from Char.ofNat_toNat c] at hlower hblank hvalue
  refine ⟨rfl, _, utf8EncodeChar_of_lt hlower, hblank, hvalue, fun hx => ?_⟩
  rw [← hx] at hblank hvalue
  rw [← hblank, ← hvalue] at hread
  obtain hread | ⟨n, hread⟩ := hread <;> cases hread

/-- In lower case, digits have the same values at the same places. -/
theorem nibbles_toLower {s : List Char} {i : Nat} {xs : List Nat}
    (h : nibbles i (Text.utf8 s) = .ok xs) :
    nibbles i (Text.utf8 (s.map Char.toLower)) = .ok xs ∧
      (Text.utf8 (s.map Char.toLower)).length = (Text.utf8 s).length ∧
      'x' ∉ s.map Char.toLower := by
  induction s generalizing i xs with
  | nil => exact ⟨h, rfl, List.not_mem_nil⟩
  | cons c s ih =>
    have hcons (c : Char) (s : List Char) :
        Text.utf8 (c :: s) = String.utf8EncodeChar c ++ Text.utf8 s := rfl
    obtain ⟨x, rest, hc⟩ := List.exists_cons_of_ne_nil (Text.utf8EncodeChar_ne_nil c)
    rw [hcons, hc, List.cons_append, nibbles] at h
    have hread : isBlank x = true ∨ ∃ n, value? x = some n := by
      by_contra hno
      obtain ⟨hblank, hvalue⟩ := not_or.mp hno
      rw [if_neg hblank, Option.eq_none_iff_forall_ne_some.mpr (not_exists.mp hvalue)] at h
      cases h
    obtain ⟨rfl, y, hlower, hblank, hvalue, hx⟩ := lower_of_read hc hread
    rw [List.map_cons, hcons, hcons, hc, hlower, List.singleton_append, List.singleton_append,
      nibbles, hblank, hvalue, List.length_cons, List.length_cons, List.mem_cons, not_or]
    rw [List.nil_append] at h
    by_cases hspace : isBlank x = true
    · rw [if_pos hspace] at h ⊢
      obtain ⟨hnibbles, hlength, hmark⟩ := ih h
      exact ⟨hnibbles, by rw [hlength], hx, hmark⟩
    · obtain ⟨n, hn⟩ := hread.resolve_left hspace
      simp only [if_neg hspace, hn, bind_eq_ok] at h ⊢
      obtain ⟨ys, hys, h⟩ := h
      obtain ⟨hnibbles, hlength, hmark⟩ := ih hys
      exact ⟨⟨ys, hnibbles, h⟩, by rw [hlength], hx, hmark⟩

theorem unmark_of_ne {s : List Char} (h : ∀ rest, s ≠ '0' :: 'x' :: rest) : unmark s = (s, 0) := by
  unfold unmark
  split
  next rest => exact absurd rfl (h rest)
  next => rfl

/-- Letter case does not count. -/
theorem decode_toLower {expected : Expected} {s : String} {b : Bytes}
    (h : decode expected s = .ok b) :
    decode expected (String.ofList (s.toList.map Char.toLower)) = .ok b := by
  have hbody : ∃ body skipped, unmark s.toList = (body, skipped) ∧
      ('x' ∉ body.map Char.toLower →
        unmark (s.toList.map Char.toLower) = (body.map Char.toLower, skipped)) := by
    by_cases hmark : ∃ rest, s.toList = '0' :: 'x' :: rest
    · obtain ⟨rest, hs⟩ := hmark
      rw [hs]
      exact ⟨rest, 2, rfl, fun _ => rfl⟩
    · refine ⟨s.toList, 0, unmark_of_ne (not_exists.mp hmark), fun hlower => unmark_of_ne ?_⟩
      intro rest hrest
      simp [hrest] at hlower
  obtain ⟨body, skipped, hunmark, hlower⟩ := hbody
  unfold decode at h ⊢
  rw [hunmark] at h
  dsimp only at h
  split at h
  next hadmits =>
    obtain ⟨xs, hxs, h⟩ := bind_eq_ok.mp h
    obtain ⟨hnibbles, hlength, hmark⟩ := nibbles_toLower hxs
    rw [String.toList_ofList, hlower hmark]
    dsimp only
    rw [hlength, if_pos hadmits]
    exact bind_eq_ok.mpr ⟨xs, hnibbles, h⟩
  next => cases h

end VectorReplay.Hex.Loose
