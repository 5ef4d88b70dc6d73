import VectorReplay.Proofs.Ledger.Transfer

/-!
What a refused change leaves of a ledger: as the checks come before the writes, at most an entry
that nothing was written into.
-/
namespace VectorReplay.Ledger

variable {l l' : Ledger} {α β : Type} {P Q : Ledger → Prop}

/-- If the change is refused, `P` holds of the ledger that it leaves. -/
def Change.WhenRefused (m : Change α) (l : Ledger) (P : Ledger → Prop) : Prop :=
  ∀ r l', m l = (.error (.refused r), l') → P l'

theorem Change.WhenRefused.mono {m : Change α} (h : m.WhenRefused l P) (hpq : ∀ l', P l' → Q l') :
    m.WhenRefused l Q :=
  fun r l' hm => hpq l' (h r l' hm)

theorem Change.WhenRefused.bind {m : Change α} {f : α → Change β} (hm : m.WhenRefused l P)
    (hf : ∀ a l', (f a).WhenRefused l' P) : (m >>= f).WhenRefused l P := by
  intro r l' h
  rcases hrun : m l with ⟨e | a, l₁⟩
  · rw [bind_of_error hrun] at h
    cases h
    exact hm r l' hrun
  · rw [bind_of_ok hrun] at h
    exact hf a l₁ r l' h

theorem whenRefused_of_ok {m : Change α} {a : α} (h : m l = (.ok a, l')) : m.WhenRefused l P := by
  intro r l'' hm
  rw [h] at hm
  cases hm

theorem whenRefused_step {m : Change α} {f : α → Change β} {a : α} (h : m l = (.ok a, l')) :
    (m >>= f).WhenRefused l P ↔ (f a).WhenRefused l' P := by
  unfold Change.WhenRefused
  rw [bind_of_ok h]

/-- What would come next is not reached. -/
theorem whenRefused_throw {e : Stop} {f : α → Change β} (h : P l) :
    ((throw e : Change α) >>= f).WhenRefused l P := by
  intro r l' hm
  rw [bind_of_error (throw_apply e l)] at hm
  cases hm
  exact h

/-- A number out of range is no refusal. -/
theorem whenRefused_checked {number : Option α} {f : α → Change β}
    (h : ∀ a, (f a).WhenRefused l P) : (checked number >>= f).WhenRefused l P := by
  cases number with
  | none =>
    intro r l' hm
    cases hm
  | some a => exact (whenRefused_step rfl).mpr (h a)

/-- A recipient is never refused. -/
theorem whenRefused_credit (a : Address) (amount : Word) : (credit a amount).WhenRefused l P := by
  unfold credit
  rw [whenRefused_step (modify_apply _ l), whenRefused_step (get_apply _)]
  exact whenRefused_checked fun balance => whenRefused_of_ok rfl

/-- The entry of the sender is there before its nonce and its funds are looked at. -/
theorem whenRefused_debit (t : Transfer) (fee : Word) :
    (debit t fee).WhenRefused l (· = l.update t.sender id) := by
  unfold debit
  rw [whenRefused_step (modify_apply _ l), whenRefused_step (get_apply _)]
  dsimp only
  split
  · exact whenRefused_throw rfl
  refine whenRefused_checked fun cost => ?_
  split
  · exact whenRefused_throw rfl
  rw [whenRefused_step (modify_apply _ _)]
  exact whenRefused_checked fun nonce => whenRefused_of_ok (modify_apply _ _)

theorem whenRefused_transfer (t : Transfer) :
    (transfer t).WhenRefused l fun l' => l' = l ∨ l' = l.update t.sender id := by
  unfold transfer
  rw [whenRefused_step (get_apply l)]
  split
  · exact whenRefused_throw (.inl rfl)
  refine whenRefused_checked fun fee => whenRefused_checked fun margin =>
    whenRefused_checked fun tip => ?_
  refine ((whenRefused_debit t fee).mono fun l' => Or.inr).bind fun _ l₁ => ?_
  refine (whenRefused_credit t.recipient t.value).bind fun _ l₂ => ?_
  exact whenRefused_credit l.coinbase tip

/-- A refused submission creates an entry for the sender at most. -/
theorem eq_of_submit_refused {crypto : Crypto} {encoded : Bytes} {r : Refusal}
    (h : submit crypto encoded l = (.error (.refused r), l')) :
    l' = l ∨ ∃ t, Transfer.decode crypto encoded = .ok t ∧ l' = l.update t.sender id := by
  unfold submit at h
  cases ht : Transfer.decode crypto encoded with
  | error e =>
    rw [ht] at h
    cases h
    exact .inl rfl
  | ok t =>
    rw [ht] at h
    exact (whenRefused_transfer t r l' h).imp_right fun h => ⟨t, rfl, h⟩

/-- Creating an entry does nothing where there is one. -/
theorem update_id (l : Ledger) (a : Address) : l.update a id = l ∨
    l.entries.get? a = none ∧ l.update a id = { l with entries := l.entries ++ [(a, .empty)] } := by
  unfold update entry
  cases h : l.entries.get? a with
  | some e =>
    left
    rw [Option.getD_some, id, Table.set_of_get? h]
  | none =>
    right
    rw [Option.getD_none, id, Table.set_of_not_mem _ (Table.not_mem_of_get? h)]
    exact ⟨rfl, rfl⟩

theorem entry_update_id (l : Ledger) (a b : Address) : (l.update a id).entry b = l.entry b := by
  rw [entry_update, id]
  split
  next h => rw [h]
  next => rfl

end VectorReplay.Ledger
