import VectorReplay.Proofs.Account.Storage
import VectorReplay.Proofs.InMemory.Verifying

/-!
What verifying says about storage. A passed verification settles the slots that the expected accounts
name. Slots without an expected value are not looked at: nodes have no call that lists the storage of
an account.
-/
namespace VectorReplay

/-- Puts a word into a storage slot. -/
def World.write (w : World) (a : Address) (key value : Word) : World :=
  { w with slot := Function.update w.slot a (Function.update (w.slot a) key value) }

/-- A slot that an account does not name can hold anything. -/
theorem World.Agrees.write {w : World} {a b : Address} {x : Account} (h : w.Agrees b x)
    {key : Word} (hkey : b = a → x.storage.get? key = none) (value : Word) :
    (w.write a key value).Agrees b x where
  balance := h.balance
  nonce := h.nonce
  code := h.code
  slots := by
    intro e he
    unfold World.write
    dsimp only
    by_cases hb : b = a
    · have hne := Storage.ne_of_get? (hkey hb) he
      rw [hb, Function.update_self, Function.update_of_ne hne, ← hb]
      exact h.slots e he
    · rw [Function.update_of_ne hb]
      exact h.slots e he

namespace InMemory

variable {crypto : Crypto}

/-- The value of a storage slot as a word. -/
def slot (m : InMemory) (a : Address) (key : Word) : Word :=
  Word.ofHash ((m.ledger.entry a).slot (Word.toHash key))

/-- Puts a word into a storage slot. -/
def write (m : InMemory) (a : Address) (key value : Word) : InMemory :=
  (reachable .ethereum (.setStorage a (Word.toHash key) (Word.toHash value)) m).2

theorem world_write (m : InMemory) (a : Address) (key value : Word) :
    (m.write a key value).ledger.world = m.ledger.world.write a key value :=
  Ledger.world_setStorage _ _ _ _

/-! ### Verdicts -/

theorem follows_verifyAccounts_offline {skip : SkipList} {post : Accounts} {run : Run InMemory}
    (h : run.node.unreachable = true) :
    Follows (Verify.accounts crypto (node crypto) skip post) run
      (check (∀ e ∈ post, skip.contains e.1 = true)) fun _ _ _ => True := by
  induction post generalizing run with
  | nil =>
    rw [check_of (by simp)]
    exact follows_of_ok rfl trivial
  | cons e post ih =>
    obtain ⟨a, x⟩ := e
    unfold Verify.accounts
    by_cases hskip : skip.contains a = true
    · rw [if_pos hskip, List.forall_mem_cons, and_iff_right hskip]
      exact (follows_step rfl).mpr (ih h)
    · rw [if_neg hskip, check_of_not fun hall => hskip (hall (a, x) List.mem_cons_self)]
      have hbalance : Stage.perform (node crypto) (.balance a) run =
          (.error (.failed (.node (Call.balance a).method "connection refused")),
            (Stage.perform (node crypto) (.balance a) run).2) := by
        simp only [Stage.perform, node, h, if_true]
      exact follows_of_error (bind_of_error (bind_of_error hbalance))

/-- When a verification passes: an account that is not skipped has to agree, on a node that can be
reached. -/
theorem verify_passes_iff (skip : SkipList) (post : Accounts) (m : InMemory) :
    (Verify.all crypto (node crypto) skip post (Run.start m)).1 = .ok () ↔
      ∀ e ∈ post, skip.contains e.1 = false →
        m.unreachable = false ∧ m.ledger.world.Agrees e.1 e.2 := by
  have hok : (Verify.all crypto (node crypto) skip post (Run.start m)).1 = .ok () ↔
      ∃ u run, Verify.all crypto (node crypto) skip post (Run.start m) = (.ok u, run) :=
    ⟨fun h => ⟨(), _, Prod.ext h rfl⟩, fun ⟨_, _, h⟩ => by rw [h]⟩
  rw [hok]
  cases hm : m.unreachable with
  | false =>
    have hshows : (Run.start m).node.Shows m.pendingPolls m.ledger.context m.ledger.world :=
      ⟨hm, rfl, rfl, rfl⟩
    rw [(follows_verify skip post hshows).succeeds_iff]
    simp [check_eq_some]
  | true =>
    have hall : Follows (Verify.all crypto (node crypto) skip post) (Run.start m)
        (check (∀ e ∈ post, skip.contains e.1 = true)) fun _ _ _ => True :=
      (follows_verifyAccounts_offline hm).andThen fun _ _ _ _ => follows_of_ok rfl trivial
    rw [hall.succeeds_iff]
    simp [check_eq_some]

/-- After a passed verification every named slot of an account that is not skipped has its expected
value. The verdict says nothing about any other slot: it is the same whatever is written there. -/
theorem verify_named_slots {skip : SkipList} {post : Accounts} {m : InMemory}
    (passed : (Verify.all crypto (node crypto) skip post (Run.start m)).1 = .ok ()) :
    (∀ e ∈ post, skip.contains e.1 = false → ∀ key value,
      e.2.storage.get? key = some value → m.slot e.1 key = value) ∧
    ∀ a key, (∀ e ∈ post, skip.contains e.1 = false → e.1 = a → e.2.storage.get? key = none) →
      ∀ value, (Verify.all crypto (node crypto) skip post
        (Run.start (m.write a key value))).1 = .ok () := by
  rw [verify_passes_iff] at passed
  constructor
  · intro e he hskip key value hvalue
    exact (passed e he hskip).2.slots (key, value) (Storage.mem_entries hvalue)
  · intro a key hunnamed value
    rw [verify_passes_iff]
    intro e he hskip
    obtain ⟨hreachable, hagrees⟩ := passed e he hskip
    rw [world_write]
    exact ⟨hreachable, hagrees.write (hunnamed e he hskip) value⟩

/-! ### A slot that is left over -/

namespace Leftover

def holder : Address := FixedBytes.ofNat 20 1

/-- The slot 5 of the holder is 7. -/
def state : InMemory := (fresh 0).write holder 5 7

theorem slot_holder : state.slot holder 5 = 7 := by
  decide

/-- The account of the holder, with the storage that is expected of it. -/
def post (storage : Storage) : Accounts := [(holder, ⟨[], 0, 0, storage⟩)]

theorem passes (storage : Storage) (h : ∀ e ∈ storage.entries, state.slot holder e.1 = e.2) :
    (Verify.all .ethereum (InMemory.node .ethereum) ⟨[]⟩ (post storage) (Run.start state)).1 =
      .ok () := by
  rw [verify_passes_iff]
  intro e he _
  rw [List.mem_singleton.mp he]
  exact ⟨rfl, rfl, rfl, rfl, h⟩

end Leftover

open Leftover in
/-- The slot is as expected where it is named, and another one may be written. -/
theorem verify_named_slots_leftover :
    (Verify.all .ethereum (InMemory.node .ethereum) ⟨[]⟩ (post (Storage.empty.insert 5 7))
      (Run.start state)).1 = .ok () ∧
    state.slot holder 5 = 7 ∧
    (Verify.all .ethereum (InMemory.node .ethereum) ⟨[]⟩ (post (Storage.empty.insert 5 7))
      (Run.start (state.write holder 6 1))).1 = .ok () := by
  have passed := passes (Storage.empty.insert 5 7) fun e he =>
    (List.mem_singleton.mp he).symm ▸ slot_holder
  obtain ⟨hnamed, hunnamed⟩ := verify_named_slots passed
  refine ⟨passed, hnamed _ List.mem_cons_self rfl 5 7 rfl, hunnamed holder 6 ?_ 1⟩
  intro e he _ _
  rw [List.mem_singleton.mp he]
  rfl

open Leftover in
/-- A verification does not read as zero what an account leaves out: the slot 5 is 7, although no
value is expected there. -/
theorem not_verify_exact : ¬ ∀ (crypto : Crypto) (m : InMemory) (post : Accounts) (skip : SkipList),
    (Verify.all crypto (InMemory.node crypto) skip post (Run.start m)).1 = .ok () →
    ∀ e ∈ post, skip.contains e.1 = false →
      ∀ key, m.slot e.1 key = (e.2.storage.get? key).getD 0 := by
  intro h
  have passed := passes .empty (by simp [Storage.empty])
  have hslot := h .ethereum state (post .empty) ⟨[]⟩ passed _ List.mem_cons_self rfl 5
  rw [slot_holder] at hslot
  cases hslot

end InMemory

end VectorReplay
