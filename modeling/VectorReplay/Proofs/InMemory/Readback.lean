import VectorReplay.Proofs.InMemory.Seeding
import VectorReplay.Proofs.InMemory.Slots

/-!
Seeding reads back, on an in-memory node in any state: the written fields are what the node answers
afterwards, everything else is as it was, and a verification of the same accounts passes.
-/
namespace VectorReplay

/-! ### Seeded worlds -/

namespace World

variable {as : Accounts} {e : Address × Account}

/-- An account that was seeded has its own fields; a slot that it does not name stays. -/
theorem seed_of_mem (w : World) (distinct : as.Distinct) (he : e ∈ as) :
    (w.seed as).balance e.1 = e.2.balance.toNat ∧ (w.seed as).nonce e.1 = e.2.nonce.toNat ∧
    (w.seed as).code e.1 = e.2.code ∧
    ∀ key, (w.seed as).slot e.1 key = (e.2.storage.get? key).getD (w.slot e.1 key) := by
  have hget : as.get? e.1 = some e.2 := Table.get?_of_mem distinct he
  simp [seed, Table.overlay, hget]

theorem seed_of_not_mem (w : World) {a : Address} (h : a ∉ as.map Prod.fst) :
    (w.seed as).balance a = w.balance a ∧ (w.seed as).nonce a = w.nonce a ∧
    (w.seed as).code a = w.code a ∧ (w.seed as).slot a = w.slot a := by
  have hget : as.get? a = none := Table.get?_eq_none h
  simp only [seed, Table.overlay, hget, and_self]

theorem agrees_seed (w : World) (distinct : as.Distinct) (he : e ∈ as) :
    (w.seed as).Agrees e.1 e.2 := by
  obtain ⟨hbalance, hnonce, hcode, hslot⟩ := w.seed_of_mem distinct he
  refine ⟨hbalance, hnonce, hcode, fun d hd => ?_⟩
  rw [hslot, Storage.get?_of_mem hd, Option.getD_some]

end World

/-! ### Entries -/

/-- Entries that no query tells apart. -/
structure Ledger.Entry.Alike (x y : Ledger.Entry) : Prop where
  balance : x.balance = y.balance
  nonce : x.nonce = y.nonce
  code : x.code = y.code
  slots : ∀ key, x.slot key = y.slot key

namespace Ledger

variable {l l' : Ledger} {a : Address}

theorem slot_eq_of_world {key : Hash} {value : Word}
    (h : l.world.slot a (Word.ofHash key) = value) : (l.entry a).slot key = Word.toHash value := by
  rw [← h, world, Word.toHash_ofHash, Word.toHash_ofHash]

theorem alike_of_world (hbalance : l.world.balance a = l'.world.balance a)
    (hnonce : l.world.nonce a = l'.world.nonce a) (hcode : l.world.code a = l'.world.code a)
    (hslot : l.world.slot a = l'.world.slot a) : (l.entry a).Alike (l'.entry a) where
  balance := BitVec.eq_of_toNat_eq hbalance
  nonce := BitVec.eq_of_toNat_eq hnonce
  code := hcode
  slots key := by
    rw [slot_eq_of_world (congrFun hslot (Word.ofHash key)), world, Word.toHash_ofHash,
      Word.toHash_ofHash]

end Ledger

namespace InMemory

variable {crypto : Crypto}

/-! ### What administration leaves alone -/

theorem receipts_of_isAdministrative {c : Call} (h : c.isAdministrative) (m : InMemory) :
    ((node crypto).answer c m).2.receipts = m.receipts := by
  simp only [node]
  split
  · rfl
  · cases c <;> first | rfl | cases h

theorem preserves_seedAccounts (as : Accounts) (receipts : Table Hash Receipt) :
    (Seed.accounts crypto (node crypto) as).Preserves fun m => m.receipts = receipts := by
  have hperform {c : Call} (h : c.isAdministrative) :
      (Stage.perform (node crypto) c).Preserves fun m => m.receipts = receipts :=
    Stage.preserves_perform fun m hm => (receipts_of_isAdministrative h m).trans hm
  apply Stage.preserves_forM
  rintro ⟨a, x⟩
  refine (hperform rfl).bind fun _ => (hperform rfl).bind fun _ => (hperform rfl).bind fun _ => ?_
  exact (Stage.preserves_forM (fun _ => hperform rfl) _).bind fun _ => Stage.preserves_tell _

/-! ### Reading back -/

/-- A node after accounts were written into it, next to the node before. -/
structure Seeded (crypto : Crypto) (as : Accounts) (before after : InMemory) : Prop where
  /-- Every field that was written is the answer to its query, -/
  balance : ∀ e ∈ as, (node crypto).answer (.balance e.1) after = (.ok e.2.balance, after)
  nonce : ∀ e ∈ as, (node crypto).answer (.transactionCount e.1) after = (.ok e.2.nonce, after)
  code : ∀ e ∈ as, (node crypto).answer (.code e.1) after = (.ok e.2.code, after)
  slots : ∀ e ∈ as, ∀ key value, e.2.storage.get? key = some value →
    (node crypto).answer (.storage e.1 (Word.toHash key)) after = (.ok (Word.toHash value), after)
  /-- and nothing else changed: no slot that is not named, -/
  otherSlots : ∀ e ∈ as, ∀ key, e.2.storage.get? (Word.ofHash key) = none →
    (after.ledger.entry e.1).slot key = (before.ledger.entry e.1).slot key
  /-- no other account, no context and no receipt. -/
  otherAccounts : ∀ a ∉ as.map Prod.fst, (after.ledger.entry a).Alike (before.ledger.entry a)
  context : after.ledger.context = before.ledger.context
  receipts : after.receipts = before.receipts
  /-- The accounts are then what a verification finds. -/
  verified : ∀ skip, (Verify.all crypto (node crypto) skip as (Run.start after)).1 = .ok ()

theorem answer_of_reachable {m : InMemory} (h : m.unreachable = false) (c : Call) :
    (node crypto).answer c m = reachable crypto c m := by
  simp only [node, h, Bool.false_eq_true, if_false]

/-- A node that shows accounts on top of what another one shows, and has the context and the receipts
of that one. -/
theorem seeded_of_world {before after : InMemory} {as : Accounts} (distinct : as.Distinct)
    (hreachable : after.unreachable = false)
    (hworld : after.ledger.world = before.ledger.world.seed as)
    (hcontext : after.ledger.context = before.ledger.context)
    (hreceipts : after.receipts = before.receipts) : Seeded crypto as before after := by
  have hmem {e : Address × Account} (he : e ∈ as) := before.ledger.world.seed_of_mem distinct he
  have hother {a : Address} (ha : a ∉ as.map Prod.fst) := before.ledger.world.seed_of_not_mem ha
  rw [← hworld] at hmem hother
  constructor
  case balance =>
    intro e he
    rw [answer_of_reachable hreachable, ← BitVec.eq_of_toNat_eq (hmem he).1]
    rfl
  case nonce =>
    intro e he
    rw [answer_of_reachable hreachable, ← BitVec.eq_of_toNat_eq (hmem he).2.1]
    rfl
  case code =>
    intro e he
    rw [answer_of_reachable hreachable, ← (hmem he).2.2.1]
    rfl
  case slots =>
    intro e he key value hvalue
    have hslot := (hmem he).2.2.2 key
    rw [hvalue, Option.getD_some, ← Word.ofHash_toHash key] at hslot
    rw [answer_of_reachable hreachable, ← Ledger.slot_eq_of_world hslot]
    rfl
  case otherSlots =>
    intro e he key hkey
    have hslot := (hmem he).2.2.2 (Word.ofHash key)
    rw [hkey, Option.getD_none] at hslot
    rw [Ledger.slot_eq_of_world hslot, Ledger.world, Word.toHash_ofHash, Word.toHash_ofHash]
  case otherAccounts =>
    intro a ha
    obtain ⟨hbalance, hnonce, hcode, hslot⟩ := hother ha
    exact Ledger.alike_of_world hbalance hnonce hcode hslot
  case context => exact hcontext
  case receipts => exact hreceipts
  case verified =>
    intro skip
    rw [verify_passes_iff]
    intro e he _
    rw [hworld]
    exact ⟨hreachable, before.ledger.world.agrees_seed distinct he⟩

/-- Accounts of distinct addresses can be written into any node that can be reached, and they read
back. -/
theorem accounts_seeded (crypto : Crypto) {m : InMemory} (reachable : m.unreachable = false)
    {as : Accounts} (distinct : as.Distinct) :
    (Seed.accounts crypto (node crypto) as (Run.start m)).1 = .ok () ∧
    Seeded crypto as m (Seed.accounts crypto (node crypto) as (Run.start m)).2.node := by
  have hshows : (Run.start m).node.Shows m.pendingPolls m.ledger.context m.ledger.world :=
    ⟨reachable, rfl, rfl, rfl⟩
  have hreceipts : (Seed.accounts crypto (node crypto) as (Run.start m)).2.node.receipts =
      m.receipts := preserves_seedAccounts as m.receipts (Run.start m) rfl
  obtain ⟨_, run, hrun, hafter⟩ := follows_seedAccounts distinct hshows
  rw [hrun] at hreceipts ⊢
  exact ⟨rfl, seeded_of_world distinct hafter.reachable hafter.world hafter.context hreceipts⟩

/-! ### An account that is written over -/

namespace Overwritten

def holder : Address := FixedBytes.ofNat 20 1
def newcomer : Address := FixedBytes.ofNat 20 2

/-- The holder has a balance of 9, and its slot 5 is 7. -/
def before : InMemory :=
  { fresh 1 with ledger := { Ledger.empty with
      entries := [(holder, ⟨9, 0, [], [(Word.toHash 5, Word.toHash 7)]⟩)] } }

/-- The holder as it is seeded. -/
def account : Account := ⟨[0x60], 3, 1, Storage.empty.insert 6 1⟩

def accounts : Accounts := [(holder, account), (newcomer, ⟨[], 5, 0, .empty⟩)]

def after : InMemory :=
  (Seed.accounts .ethereum (node .ethereum) accounts (Run.start before)).2.node

end Overwritten

open Overwritten in
/-- The holder has a new balance, and its slot 5 is still 7. -/
theorem accounts_seeded_overwritten : before.unreachable = false ∧ accounts.Distinct ∧
    (Seed.accounts .ethereum (node .ethereum) accounts (Run.start before)).1 = .ok () ∧
    Seeded .ethereum accounts before after ∧
    (node .ethereum).answer (.balance holder) after = (.ok (3 : Word), after) ∧
    (after.ledger.entry holder).slot (Word.toHash 5) = Word.toHash 7 := by
  have distinct : accounts.Distinct := by decide
  have hseeded : Seeded .ethereum accounts before after :=
    (accounts_seeded .ethereum (m := before) rfl distinct).2
  have hmem : (holder, account) ∈ accounts := List.mem_cons_self
  have hunnamed : account.storage.get? (Word.ofHash (Word.toHash 5)) = none := by
    rw [Word.ofHash_toHash]
    rfl
  have hbefore : (before.ledger.entry holder).slot (Word.toHash 5) = Word.toHash 7 := by decide
  refine ⟨rfl, distinct, (accounts_seeded .ethereum rfl distinct).1, hseeded, ?balance, ?slot⟩
  case balance => exact hseeded.balance (holder, account) hmem
  case slot => exact (hseeded.otherSlots (holder, account) hmem _ hunnamed).trans hbefore

end InMemory

end VectorReplay
