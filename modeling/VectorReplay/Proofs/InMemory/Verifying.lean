import VectorReplay.Proofs.InMemory.Calls
import VectorReplay.Verify

/-!
Verifying on the in-memory node: the comparison goes through exactly where the world agrees with
every account that is not skipped.
-/
namespace VectorReplay

open Classical in
/-- A check has a result where it holds. -/
noncomputable def check (P : Prop) : Option Unit :=
  if P then some () else none

theorem check_of {P : Prop} (h : P) : check P = some () :=
  if_pos h

theorem check_of_not {P : Prop} (h : ¬ P) : check P = none :=
  if_neg h

theorem check_eq_some {P : Prop} {u : Unit} : check P = some u ↔ P := by
  unfold check
  split
  next h => simp [h]
  next h => simp [h]

theorem check_and (P Q : Prop) : check (P ∧ Q) = (check P).bind fun _ => check Q := by
  by_cases hp : P
  · rw [check_of hp, Option.bind_some, and_iff_right hp]
  · rw [check_of_not hp, check_of_not fun h => hp h.1, Option.bind_none]

namespace InMemory

variable {crypto : Crypto} {p : Nat} {c : Context} {w : World} {run : Run InMemory}

/-- After a stage that does not change what the node shows. -/
def Stays {β α : Type} (polls : Nat) (c : Context) (w : World) (_ : β) (_ : α)
    (run : Run InMemory) : Prop :=
  run.node.Shows polls c w

theorem follows_compare {γ : Type} [DecidableEq γ] {P : Prop} {a : Address}
    {field : StateField} {text : γ → String} {expected actual : γ} (hp : actual = expected ↔ P)
    (h : run.node.Shows p c w) :
    Follows (Verify.compare crypto a field text expected actual) run (check P)
      (Stays p c w) := by
  unfold Verify.compare
  by_cases heq : actual = expected
  · rw [if_pos heq, check_of (hp.mp heq)]
    exact follows_of_ok rfl h
  · rw [if_neg heq, check_of_not fun hP => heq (hp.mpr hP)]
    exact follows_of_error rfl

theorem follows_verifySlots (a : Address) (es : List (Word × Word)) (h : run.node.Shows p c w) :
    Follows (es.forM fun e => do
        let actual ← Stage.perform (node crypto) (.storage a (Word.toHash e.1))
        Verify.compare crypto a (.storage e.1) Word.decimal e.2 (Word.ofHash actual)) run
      (check (∀ e ∈ es, w.slot a e.1 = e.2)) (Stays p c w) := by
  induction es generalizing run with
  | nil =>
    rw [check_of (by simp)]
    exact follows_of_ok rfl h
  | cons e es ih =>
    rw [List.forall_mem_cons, check_and]
    have hslot : Follows (do
        let actual ← Stage.perform (node crypto) (.storage a (Word.toHash e.1))
        Verify.compare crypto a (.storage e.1) Word.decimal e.2 (Word.ofHash actual)) run
          (check (w.slot a e.1 = e.2)) (Stays p c w) :=
      follows_seq (follows_storage h a e.1) fun x run₁ h₁ => follows_compare (by rw [h₁.2]) h₁.1
    exact hslot.bind fun _ _ run₁ h₁ => ih h₁

theorem follows_verifyAccount (a : Address) (x : Account) (h : run.node.Shows p c w) :
    Follows (Verify.account crypto (node crypto) a x) run (check (w.Agrees a x))
      (Stays p c w) := by
  rw [World.agrees_iff, check_and, check_and, check_and]
  unfold Verify.account
  refine follows_seq (follows_balance h a) fun balance run₁ h₁ => ?_
  refine (follows_compare ?_ h₁.1).bind fun _ _ run₂ h₂ => ?_
  · rw [← h₁.2]
    exact BitVec.toNat_inj.symm
  refine follows_seq (follows_transactionCount h₂ a) fun nonce run₃ h₃ => ?_
  refine (follows_compare ?_ h₃.1).bind fun _ _ run₄ h₄ => ?_
  · rw [← h₃.2]
    exact BitVec.toNat_inj.symm
  refine follows_seq (follows_code h₄ a) fun code run₅ h₅ => ?_
  refine (follows_compare (by rw [h₅.2]) h₅.1).bind fun _ _ run₆ h₆ => ?_
  exact follows_verifySlots a x.storage.entries h₆

theorem follows_verifyAccounts (skip : SkipList) (post : Accounts) (h : run.node.Shows p c w) :
    Follows (Verify.accounts crypto (node crypto) skip post) run
      (check (∀ e ∈ post, skip.contains e.1 = false → w.Agrees e.1 e.2))
      (Stays p c w) := by
  induction post generalizing run with
  | nil =>
    rw [check_of (by simp)]
    exact follows_of_ok rfl h
  | cons e post ih =>
    obtain ⟨a, x⟩ := e
    unfold Verify.accounts
    by_cases hskip : skip.contains a = true
    · have hcons : (∀ e ∈ (a, x) :: post, skip.contains e.1 = false → w.Agrees e.1 e.2) ↔
          ∀ e ∈ post, skip.contains e.1 = false → w.Agrees e.1 e.2 := by
        simp [hskip]
      rw [if_pos hskip, hcons]
      exact follows_seq (follows_tell h) fun _ run₁ h₁ => ih h₁
    · have hcons : (∀ e ∈ (a, x) :: post, skip.contains e.1 = false → w.Agrees e.1 e.2) ↔
          w.Agrees a x ∧ ∀ e ∈ post, skip.contains e.1 = false → w.Agrees e.1 e.2 := by
        simp [hskip]
      rw [if_neg hskip, hcons, check_and]
      refine (follows_verifyAccount a x h).bind fun _ _ run₁ h₁ => ?_
      exact (ih h₁).andThen fun _ n run₂ h₂ => follows_of_ok rfl h₂

theorem follows_verify (skip : SkipList) (post : Accounts) (h : run.node.Shows p c w) :
    Follows (Verify.all crypto (node crypto) skip post) run
      (check (∀ e ∈ post, skip.contains e.1 = false → w.Agrees e.1 e.2))
      (Stays p c w) :=
  (follows_verifyAccounts skip post h).andThen fun _ _ _ h₁ => follows_of_ok rfl h₁

end InMemory

end VectorReplay
