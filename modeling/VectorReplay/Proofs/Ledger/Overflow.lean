import VectorReplay.Proofs.Ledger.Transfer

/-!
When a transfer is neither executed nor refused: the sums and products of words that leave their
range, each one under the conditions under which it is formed at all.
-/
namespace VectorReplay

namespace Word

variable {a b : Word}

theorem add?_eq_none_iff : add? a b = none ↔ 2 ^ 256 ≤ a.toNat + b.toNat := by
  refine ⟨add?_eq_none, fun h => Option.eq_none_iff_forall_ne_some.mpr fun c hc => ?_⟩
  have hsum := add?_eq_some hc
  have hlt := c.isLt
  omega

end Word

/-- One of the numbers of a transfer is out of range. Those behind the first two are formed only
after the checks and payments that stand with them. -/
inductive World.Overflows (c : Context) (w : World) (t : Transfer) : Prop
  | fee (wide : 2 ^ 256 ≤ 21000 * t.gasPrice.toNat)
  | underpriced (low : t.gasPrice.toNat < c.baseFee.toNat)
  | cost (counted : w.nonce t.sender = t.nonce.toNat)
      (wide : 2 ^ 256 ≤ t.value.toNat + 21000 * t.gasPrice.toNat)
  | nonce (counted : w.nonce t.sender = t.nonce.toNat)
      (funds : t.value.toNat + 21000 * t.gasPrice.toNat ≤ w.balance t.sender)
      (last : t.nonce.toNat + 1 = 2 ^ 256)
  | recipient {w₁ : World}
      (paid : w.debit t.sender t.nonce.toNat (t.value.toNat + 21000 * t.gasPrice.toNat) = some w₁)
      (wide : 2 ^ 256 ≤ w₁.balance t.recipient + t.value.toNat)
  | coinbase {w₁ w₂ : World}
      (paid : w.debit t.sender t.nonce.toNat (t.value.toNat + 21000 * t.gasPrice.toNat) = some w₁)
      (received : w₁.credit t.recipient t.value.toNat = some w₂)
      (wide : 2 ^ 256 ≤ w₂.balance c.coinbase + 21000 * (t.gasPrice.toNat - c.baseFee.toNat))

namespace Ledger

variable {l l' : Ledger} {α β : Type}

/-- A number leaves its range on the way. -/
def Change.Aborts (m : Change α) (l : Ledger) : Prop :=
  (m l).1 = .error .aborted

theorem aborts_step {m : Change α} {f : α → Change β} {a : α} (h : m l = (.ok a, l')) :
    (m >>= f).Aborts l ↔ (f a).Aborts l' := by
  unfold Change.Aborts
  rw [bind_of_ok h]

theorem aborts_bind {m : Change α} {f : α → Change β} : (m >>= f).Aborts l ↔
    m.Aborts l ∨ ∃ a l', m l = (.ok a, l') ∧ (f a).Aborts l' := by
  rcases h : m l with ⟨e | a, l'⟩
  · rw [Change.Aborts, bind_of_error h, Change.Aborts, h]
    constructor
    · rintro ⟨⟩
      exact .inl rfl
    · rintro (⟨⟨⟩⟩ | ⟨_, _, ⟨⟩, -⟩)
      rfl
  · rw [aborts_step h, Change.Aborts, Change.Aborts, h]
    constructor
    · exact fun hf => .inr ⟨a, l', rfl, hf⟩
    · rintro (⟨⟨⟩⟩ | ⟨_, _, ⟨⟩, hf⟩)
      exact hf

theorem aborts_checked_some {a : α} {f : α → Change β} :
    (checked (some a) >>= f).Aborts l ↔ (f a).Aborts l :=
  aborts_step (pure_apply a l)

theorem aborts_checked {number : Option α} {f : α → Change β} : (checked number >>= f).Aborts l ↔
    number = none ∨ ∃ a, number = some a ∧ (f a).Aborts l := by
  cases number with
  | none => simp [checked, Change.Aborts, bind_apply]
  | some a => simp [aborts_checked_some]

/-- A refusal is no abort, whatever would come next. -/
theorem not_aborts_refused {r : Refusal} {f : α → Change β} :
    ¬ ((throw (.refused r) : Change α) >>= f).Aborts l := by
  simp [Change.Aborts, bind_apply]

theorem credit_aborts_iff (a : Address) (amount : Word) :
    (credit a amount).Aborts l ↔ 2 ^ 256 ≤ l.world.balance a + amount.toNat := by
  unfold credit
  rw [aborts_step (modify_apply _ l), aborts_step (get_apply _), aborts_checked]
  rw [entry_update_self, id, Word.add?_eq_none_iff]
  refine or_iff_left ?_
  rintro ⟨balance, -, h⟩
  cases h

/-- The cost is only formed under the right nonce, and the next nonce only once it is paid. -/
theorem debit_aborts_iff (t : Transfer) (fee : Word) : (debit t fee).Aborts l ↔
    l.world.nonce t.sender = t.nonce.toNat ∧
      (2 ^ 256 ≤ t.value.toNat + fee.toNat ∨
        t.value.toNat + fee.toNat ≤ l.world.balance t.sender ∧ t.nonce.toNat + 1 = 2 ^ 256) := by
  have hbalance : l.world.balance t.sender = (l.entry t.sender).balance.toNat := rfl
  have hnonce : l.world.nonce t.sender = (l.entry t.sender).nonce.toNat := rfl
  have hlt := (l.entry t.sender).balance.isLt
  have hlast := t.nonce.isLt
  unfold debit
  rw [aborts_step (modify_apply _ l), aborts_step (get_apply _)]
  dsimp only
  rw [entry_update_self, id]
  by_cases hn : (l.entry t.sender).nonce = t.nonce
  case neg =>
    have hne : l.world.nonce t.sender ≠ t.nonce.toNat := fun h => hn (BitVec.eq_of_toNat_eq h)
    rw [if_pos hn]
    simp only [not_aborts_refused, hne, false_and]
  have heq : l.world.nonce t.sender = t.nonce.toNat := congrArg BitVec.toNat hn
  rw [if_neg (not_not.mpr hn), aborts_checked, Word.add?_eq_none_iff]
  simp only [heq, true_and]
  refine or_congr_right ?_
  constructor
  · rintro ⟨cost, hcost, h⟩
    have hsum := Word.add?_eq_some hcost
    by_cases hfunds : (l.entry t.sender).balance.toNat < cost.toNat
    · rw [if_pos hfunds] at h
      exact absurd h not_aborts_refused
    rw [if_neg hfunds, aborts_step (modify_apply _ _), aborts_checked, Word.add?_eq_none_iff,
      hn] at h
    obtain hmax | ⟨_, -, h⟩ := h
    · have hone : (1 : Word).toNat = 1 := rfl
      omega
    · cases h
  · rintro ⟨hfunds, hmax⟩
    have hcost := Word.add?_of_lt (a := t.value) (b := fee) (by omega)
    have hsum := Word.add?_eq_some hcost
    refine ⟨_, hcost, ?_⟩
    rw [if_neg (by omega), aborts_step (modify_apply _ _), aborts_checked, Word.add?_eq_none_iff,
      hn]
    exact .inl (le_of_eq hmax.symm)

theorem Change.Follows.exists_iff {m : Change Unit} {rule : Option World} {P : World → Prop}
    (h : m.Follows l rule) :
    (∃ a l', m l = (.ok a, l') ∧ P l'.world) ↔ ∃ w, rule = some w ∧ P w := by
  constructor
  · rintro ⟨a, l', hm, hP⟩
    obtain ⟨w, hrule, rfl, -⟩ := h.of_ok hm
    exact ⟨_, hrule, hP⟩
  · rintro ⟨w, rfl, hP⟩
    obtain ⟨a, l', hm, rfl, -⟩ := h
    exact ⟨a, l', hm, hP⟩

theorem moves_abort_iff (t : Transfer) (fee tip : Word) (coinbase : Address) :
    (do debit t fee; credit t.recipient t.value; credit coinbase tip : Change Unit).Aborts l ↔
      (debit t fee).Aborts l ∨
      ∃ w₁, l.world.debit t.sender t.nonce.toNat (t.value.toNat + fee.toNat) = some w₁ ∧
        (2 ^ 256 ≤ w₁.balance t.recipient + t.value.toNat ∨
          ∃ w₂, w₁.credit t.recipient t.value.toNat = some w₂ ∧
            2 ^ 256 ≤ w₂.balance coinbase + tip.toNat) := by
  have hcredit (l' : Ledger) :
      (do credit t.recipient t.value; credit coinbase tip : Change Unit).Aborts l' ↔
        2 ^ 256 ≤ l'.world.balance t.recipient + t.value.toNat ∨
        ∃ w₂, l'.world.credit t.recipient t.value.toNat = some w₂ ∧
          2 ^ 256 ≤ w₂.balance coinbase + tip.toNat := by
    rw [aborts_bind, credit_aborts_iff, ← (follows_credit l' t.recipient t.value).exists_iff]
    simp only [credit_aborts_iff]
  rw [aborts_bind, ← (follows_debit l t fee).exists_iff]
  simp only [hcredit]

/-- Once the price is known to be in range, the numbers of the moves are all that can overflow. -/
theorem moves_abort_iff_overflows {t : Transfer} {fee tip : Word}
    (hfee : fee.toNat = 21000 * t.gasPrice.toNat) (hcovered : l.baseFee.toNat ≤ t.gasPrice.toNat)
    (htip : tip.toNat = 21000 * (t.gasPrice.toNat - l.baseFee.toNat)) :
    (do debit t fee; credit t.recipient t.value; credit l.coinbase tip : Change Unit).Aborts l ↔
      l.world.Overflows l.context t := by
  have hlt := fee.isLt
  rw [moves_abort_iff, debit_aborts_iff, hfee, htip]
  constructor
  · rintro (⟨counted, wide | ⟨funds, last⟩⟩ | ⟨w₁, paid, wide | ⟨w₂, received, wide⟩⟩)
    · exact .cost counted wide
    · exact .nonce counted funds last
    · exact .recipient paid wide
    · exact .coinbase paid received wide
  · intro h
    cases h with
    | fee wide => omega
    | underpriced low => exact absurd low (not_lt.mpr hcovered)
    | cost counted wide => exact .inl ⟨counted, .inl wide⟩
    | nonce counted funds last => exact .inl ⟨counted, .inr ⟨funds, last⟩⟩
    | recipient paid wide => exact .inr ⟨_, paid, .inl wide⟩
    | coinbase paid received wide => exact .inr ⟨_, paid, .inr ⟨_, received, wide⟩⟩

/-- A transfer aborts exactly where it passes the check of the chain id and a number overflows. -/
theorem transfer_aborts_iff (t : Transfer) : (transfer t).Aborts l ↔
    (∀ id ∈ l.chainId, id = t.chainId) ∧ l.world.Overflows l.context t := by
  have hgas : Transfer.gas.toNat = 21000 := rfl
  unfold transfer
  rw [aborts_step (get_apply l)]
  dsimp only
  have hany : (l.chainId.any fun id => decide (id ≠ t.chainId)) = true ↔
      ¬ ∀ id ∈ l.chainId, id = t.chainId := by
    cases l.chainId <;> simp
  by_cases hid : ∀ id ∈ l.chainId, id = t.chainId
  case neg =>
    rw [if_pos (hany.mpr hid)]
    exact iff_of_false not_aborts_refused fun h => hid h.1
  rw [if_neg fun h => hany.mp h hid, and_iff_right hid]
  cases hfee : Word.mul? Transfer.gas t.gasPrice with
  | none =>
    have hwide := Word.mul?_eq_none hfee
    rw [hgas] at hwide
    exact iff_of_true rfl (.fee hwide)
  | some fee =>
  rw [aborts_checked_some]
  cases hmargin : Word.sub? t.gasPrice l.baseFee with
  | none => exact iff_of_true rfl (.underpriced (Word.sub?_eq_none hmargin))
  | some margin =>
  rw [aborts_checked_some]
  have hprice := Word.mul?_eq_some hfee
  have hshare := Word.sub?_eq_some hmargin
  have hcovered := Word.le_of_sub?_eq_some hmargin
  have hfeeLt := fee.isLt
  rw [hgas] at hprice
  cases htip : Word.mul? Transfer.gas margin with
  | none =>
    -- the share is at most the fee, which is in range
    have hwide := Word.mul?_eq_none htip
    rw [hgas] at hwide
    omega
  | some tip =>
  rw [aborts_checked_some]
  have htotal := Word.mul?_eq_some htip
  rw [hgas] at htotal
  rw [hshare] at htotal
  exact moves_abort_iff_overflows hprice hcovered htotal

end Ledger

end VectorReplay
