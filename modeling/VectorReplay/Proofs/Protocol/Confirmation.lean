import VectorReplay.Proofs.Protocol.Conduct
import VectorReplay.Proofs.Replay

/-!
The exchanges of a replay, on any node: every transaction is submitted, polled while it is pending and
confirmed by a receipt before the next one.
-/
namespace VectorReplay

/-- Submissions and polls. -/
def Call.isReplaying : Call → Bool
  | .submit _ | .receipt _ => true
  | _ => false

namespace Replay

/-! ### The protocol -/

/-- Polls of a hash that find the transaction pending. -/
def pendingPolls (h : Hash) (count : Nat) : List Exchange :=
  List.replicate count ⟨.receipt h, .ok none⟩

/-- A hash is polled up to the first receipt or fault, or until patience ends. -/
inductive Polled (h : Hash) : List Exchange → Except Fault Receipt → Prop
  | found (pending : Nat) (r : Receipt) :
    Polled h (pendingPolls h pending ++ [⟨.receipt h, .ok (some r)⟩]) (.ok r)
  | failed (pending : Nat) (f : Fault) :
    Polled h (pendingPolls h pending ++ [⟨.receipt h, .error f⟩]) (.error f)
  | stalled (pending : Nat) : Polled h (pendingPolls h pending) (.error .stalled)

/-- A transaction is submitted once, and then the hash is polled that the submission answered. -/
inductive Attempted (t : Transaction) : List Exchange → Except Fault Receipt → Prop
  | refused (f : Fault) : Attempted t [⟨.submit t.encoded, .error f⟩] (.error f)
  | accepted {h : Hash} {es : List Exchange} {r : Except Fault Receipt} :
    Polled h es r → Attempted t (⟨.submit t.encoded, .ok h⟩ :: es) r

/-- Transactions are attempted one after the other, each once the one before it has a receipt. -/
inductive Trail : List Transaction → List Exchange → Except Fault (List Receipt) → Prop
  | done : Trail [] [] (.ok [])
  | failed {t : Transaction} {ts : List Transaction} {es : List Exchange} {f : Fault} :
    Attempted t es (.error f) → Trail (t :: ts) es (.error f)
  | confirmed {t : Transaction} {ts : List Transaction} {es es' : List Exchange} {r : Receipt}
    {rs : Except Fault (List Receipt)} :
    Attempted t es (.ok r) → Trail ts es' rs → Trail (t :: ts) (es ++ es') (rs.map (r :: ·))

/-- The course of a block: one without transactions is refused, and a total of gas that leaves the
range of words aborts. -/
inductive Course (b : Block) : List Exchange → Except Fault ExecutionResult → Prop
  | empty : b.transactions = [] → Course b [] (.error (.failed .emptyBlock))
  | failed {es : List Exchange} {f : Fault} : b.transactions ≠ [] →
    Trail b.transactions es (.error f) → Course b es (.error f)
  | overflow {es : List Exchange} {rs : List Receipt} : b.transactions ≠ [] →
    Trail b.transactions es (.ok rs) → ExecutionResult.gasUsed ⟨rs⟩ = none →
    Course b es (.error .aborted)
  | done {es : List Exchange} {rs : List Receipt} : b.transactions ≠ [] →
    Trail b.transactions es (.ok rs) → Course b es (.ok ⟨rs⟩)

/-! ### Replays follow the protocol -/

section
variable {σ : Type} {crypto : Crypto} {node : Node σ}

theorem does_awaitReceipt (node : Node σ) (h : Hash) (patience : Nat) :
    (awaitReceipt node h patience).Does (Polled h) := by
  induction patience with
  | zero => exact Stage.does_throw (.stalled 0)
  | succ patience ih =>
    apply (Stage.does_perform_eq node (.receipt h)).bind
    · intro es f hes
      rw [hes]
      exact .failed 0 f
    · intro es reply hes
      rw [hes]
      match reply with
      | some r => exact Stage.does_pure (.found 0 r)
      | none =>
        -- one more pending poll in front of what the rest of the patience does
        apply ih.mono
        intro es' r hpolled
        cases hpolled with
        | found pending r => exact .found (pending + 1) r
        | failed pending f => exact .failed (pending + 1) f
        | stalled pending => exact .stalled (pending + 1)

theorem does_transaction (crypto : Crypto) (node : Node σ) (patience i : Nat) (t : Transaction) :
    (transaction crypto node patience i t).Does (Attempted t) := by
  rw [transaction_eq]
  apply (Stage.does_perform_eq node (.submit t.encoded)).bind
  · intro es f hes
    rw [hes]
    exact .refused f
  · intro es accepted hes
    rw [hes]
    refine (Stage.does_tell_eq _).bind (by simp) fun es₁ _ hes₁ => ?_
    rw [hes₁.1]
    apply (does_awaitReceipt node accepted patience).bind
    · intro es₂ f hpolled
      exact .accepted hpolled
    · intro es₂ r hpolled
      refine (Stage.does_tell_eq _).bind (by simp) fun es₃ _ hes₃ => ?_
      rw [hes₃.1]
      apply Stage.does_pure
      simp only [List.nil_append, List.append_nil]
      exact .accepted hpolled

theorem does_transactions (crypto : Crypto) (node : Node σ) (patience i : Nat)
    (ts : List Transaction) : (transactions crypto node patience i ts).Does (Trail ts) := by
  induction ts generalizing i with
  | nil => exact Stage.does_pure .done
  | cons t ts ih =>
    refine Stage.Does.bind (does_transaction crypto node patience i t) ?_ ?_
    · intro es f hfailed
      exact .failed hfailed
    · intro es r hattempted
      refine Stage.Does.bind (ih (i + 1)) ?_ ?_
      · intro es' f htrail
        exact .confirmed hattempted htrail
      · intro es' rs htrail
        apply Stage.does_pure
        rw [List.append_nil]
        exact .confirmed hattempted htrail

/-- The conclusion makes no call; it aborts where the total of gas leaves its range. -/
theorem does_conclude (declared : Word) (result : ExecutionResult) :
    (conclude declared result : Stage σ Unit).Does fun es r => es = [] ∧
      (result.gasUsed = none ∧ r = .error .aborted ∨ result.gasUsed ≠ none ∧ r = .ok ()) := by
  rw [conclude_eq]
  cases hgas : result.gasUsed with
  | none => exact Stage.does_throw ⟨rfl, Or.inl ⟨rfl, rfl⟩⟩
  | some total => exact Stage.does_tell ⟨rfl, Or.inr ⟨nofun, rfl⟩⟩

theorem does_block (crypto : Crypto) (node : Node σ) (patience : Nat) (b : Block) :
    (block crypto node patience b).Does (Course b) := by
  unfold block
  split
  next hempty => exact Stage.does_throw (.empty (List.isEmpty_iff.mp hempty))
  next hempty =>
    have hne : b.transactions ≠ [] := fun h => hempty (List.isEmpty_iff.mpr h)
    refine Stage.Does.bind (does_transactions crypto node patience 0 b.transactions) ?_ ?_
    · intro es f htrail
      exact .failed hne htrail
    · intro es rs htrail
      apply (does_conclude b.header.gasUsed ⟨rs⟩).bind
      · rintro es' f ⟨rfl, ⟨hgas, ⟨⟩⟩ | ⟨-, ⟨⟩⟩⟩
        rw [List.append_nil]
        exact .overflow hne htrail hgas
      · rintro es' _ ⟨rfl, -⟩
        apply Stage.does_pure
        rw [List.append_nil, List.append_nil]
        exact .done hne htrail

end

end Replay

end VectorReplay
