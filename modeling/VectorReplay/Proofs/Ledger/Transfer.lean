import VectorReplay.Proofs.Computation
import VectorReplay.Proofs.Ledger.World

/-!
Ledgers as worlds. Every change of a ledger is a change of its world, and a transfer is executed
exactly where the rule of transfers allows it: the checks of single words add nothing to the rule.
-/
namespace VectorReplay

namespace Ledger

def context (l : Ledger) : Context where
  chainId := l.chainId
  coinbase := l.coinbase
  baseFee := l.baseFee
  gasLimit := l.gasLimit

/-- Every address has an entry, if only the empty one. -/
def world (l : Ledger) : World where
  balance a := (l.entry a).balance.toNat
  nonce a := (l.entry a).nonce.toNat
  code a := (l.entry a).code
  slot a key := Word.ofHash ((l.entry a).slot (Word.toHash key))

theorem world_empty : empty.world = World.empty := by
  have hzero : Word.ofHash (FixedBytes.zero 32) = 0 := by decide
  ext a key
  all_goals simp [world, World.empty, entry, empty, Entry.empty, Entry.slot, hzero]

theorem entry_update (l : Ledger) (a b : Address) (f : Entry → Entry) :
    (l.update a f).entry b = if b = a then f (l.entry a) else l.entry b := by
  split
  next h => rw [h, entry_update_self]
  next h => exact entry_update_ne l f (Ne.symm h)

variable (l : Ledger) (a : Address)

/-- Whatever is read from entries changes at one address. -/
theorem read_update {α : Type} (read : Entry → α) (f : Entry → Entry) :
    (fun b => read ((l.update a f).entry b)) =
      Function.update (fun b => read (l.entry b)) a (read (f (l.entry a))) := by
  funext b
  rw [entry_update, Function.update_apply]
  split <;> rfl

theorem world_update (f : Entry → Entry) : (l.update a f).world = {
    balance := Function.update l.world.balance a (f (l.entry a)).balance.toNat
    nonce := Function.update l.world.nonce a (f (l.entry a)).nonce.toNat
    code := Function.update l.world.code a (f (l.entry a)).code
    slot := Function.update l.world.slot a fun key =>
      Word.ofHash ((f (l.entry a)).slot (Word.toHash key)) } :=
  World.ext (read_update l a (fun e => e.balance.toNat) f)
    (read_update l a (fun e => e.nonce.toNat) f) (read_update l a Entry.code f)
    (read_update l a (fun e key => Word.ofHash (e.slot (Word.toHash key))) f)

theorem update_balance_self :
    Function.update l.world.balance a (l.entry a).balance.toNat = l.world.balance :=
  Function.update_eq_self a _

theorem update_nonce_self :
    Function.update l.world.nonce a (l.entry a).nonce.toNat = l.world.nonce :=
  Function.update_eq_self a _

theorem update_code_self : Function.update l.world.code a (l.entry a).code = l.world.code :=
  Function.update_eq_self a _

theorem update_slot_self : Function.update l.world.slot a
    (fun key => Word.ofHash ((l.entry a).slot (Word.toHash key))) = l.world.slot :=
  Function.update_eq_self a _

@[simp] theorem world_update_id : (l.update a id).world = l.world :=
  (world_update l a id).trans (World.ext (update_balance_self l a) (update_nonce_self l a)
    (update_code_self l a) (update_slot_self l a))

@[simp] theorem world_setBalance (f : Entry → Word) :
    (l.update a fun e => { e with balance := f e }).world =
      { l.world with balance := Function.update l.world.balance a (f (l.entry a)).toNat } :=
  (world_update l a _).trans (World.ext rfl (update_nonce_self l a) (update_code_self l a)
    (update_slot_self l a))

@[simp] theorem world_setNonce (nonce : Word) :
    (l.update a fun e => { e with nonce }).world =
      { l.world with nonce := Function.update l.world.nonce a nonce.toNat } :=
  (world_update l a _).trans (World.ext (update_balance_self l a) rfl (update_code_self l a)
    (update_slot_self l a))

@[simp] theorem world_setCode (code : Bytes) :
    (l.update a fun e => { e with code }).world =
      { l.world with code := Function.update l.world.code a code } :=
  (world_update l a _).trans (World.ext (update_balance_self l a) (update_nonce_self l a) rfl
    (update_slot_self l a))

/-- Different keys have different fixed-width forms, so that a slot is written alone. -/
@[simp] theorem world_setStorage (key value : Word) :
    (l.update a fun e =>
      { e with storage := e.storage.set (Word.toHash key) (Word.toHash value) }).world =
      { l.world with slot :=
          Function.update l.world.slot a (Function.update (l.world.slot a) key value) } := by
  refine (world_update l a _).trans (World.ext (update_balance_self l a) (update_nonce_self l a)
    (update_code_self l a) (congrArg (Function.update l.world.slot a) ?_))
  funext k
  rw [Function.update_apply]
  split
  next h => rw [h, Entry.slot, Table.get?_set_self, Option.getD_some, Word.ofHash_toHash]
  next h =>
    have hne : Word.toHash key ≠ Word.toHash k := fun heq => h (Word.toHash_injective heq).symm
    rw [Entry.slot, Table.get?_set_ne _ _ hne]
    rfl

/-! ### Changes -/

/-- A change of a ledger follows a rule on worlds and leaves the context of the block alone. -/
def Change.Follows (m : Change Unit) (l : Ledger) (rule : Option World) : Prop :=
  VectorReplay.Follows m l rule fun w _ l' => l'.world = w ∧ l'.context = l.context

/-- Where a number is in range, the work goes on with it; elsewhere the rule has to refuse. -/
theorem follows_checked {number : Option Word} {f : Word → Change Unit} {rule : Option World}
    (hnone : number = none → rule = none) (hsome : ∀ x, number = some x → (f x).Follows l rule) :
    (checked number >>= f).Follows l rule := by
  cases number with
  | none =>
    rw [hnone rfl]
    exact follows_of_error rfl
  | some x => exact (follows_step rfl).mpr (hsome x rfl)

theorem follows_debit (t : Transfer) (fee : Word) : (debit t fee).Follows l
    (l.world.debit t.sender t.nonce.toNat (t.value.toNat + fee.toNat)) := by
  have hbalance : l.world.balance t.sender = (l.entry t.sender).balance.toNat := rfl
  have hnonce : l.world.nonce t.sender = (l.entry t.sender).nonce.toNat := rfl
  have hlt := (l.entry t.sender).balance.isLt
  unfold debit World.debit Change.Follows
  rw [follows_step (modify_apply _ l), follows_step (get_apply _)]
  dsimp only
  rw [entry_update_self, id]
  by_cases hn : (l.entry t.sender).nonce = t.nonce
  case neg =>
    rw [if_pos hn, if_neg fun h => hn (BitVec.eq_of_toNat_eq (hnonce.symm.trans h.1))]
    exact follows_of_error rfl
  rw [if_neg (not_not.mpr hn)]
  refine follows_checked _ (fun hwide => ?_) fun cost hcost => ?_
  · have hcost := Word.add?_eq_none hwide
    exact if_neg (by omega)
  have hsum : cost.toNat = t.value.toNat + fee.toNat := Word.add?_eq_some hcost
  by_cases hfunds : (l.entry t.sender).balance.toNat < cost.toNat
  case pos =>
    rw [if_pos hfunds, if_neg (by omega)]
    exact follows_of_error rfl
  rw [if_neg hfunds]
  apply (follows_step (modify_apply _ _)).mpr
  refine follows_checked _ (fun hlast => ?_) fun next hnext => ?_
  · have hmax : 2 ^ 256 ≤ (l.entry t.sender).nonce.toNat + 1 := Word.add?_eq_none hlast
    exact if_neg (by omega)
  have hcount : next.toNat = (l.entry t.sender).nonce.toNat + 1 := Word.add?_eq_some hnext
  have hpaid : ((l.entry t.sender).balance - cost).toNat =
      (l.entry t.sender).balance.toNat - cost.toNat :=
    BitVec.toNat_sub_of_le (BitVec.le_def.mpr (by omega))
  have hmax := next.isLt
  have hequal : (l.entry t.sender).nonce.toNat = t.nonce.toNat := congrArg BitVec.toNat hn
  rw [if_pos ⟨hequal, by omega, by omega⟩]
  refine follows_of_ok rfl ⟨?_, rfl⟩
  rw [world_setNonce, world_setBalance, world_update_id, entry_update_self, id, hpaid, hcount,
    hequal, hsum]
  rfl

theorem follows_credit (a : Address) (amount : Word) :
    (credit a amount).Follows l (l.world.credit a amount.toNat) := by
  have hbalance : l.world.balance a = (l.entry a).balance.toNat := rfl
  unfold credit World.credit Change.Follows
  rw [follows_step (modify_apply _ l), follows_step (get_apply _)]
  rw [entry_update_self, id]
  refine follows_checked _ (fun hnone => ?_) fun balance hsome => ?_
  · have hwide := Word.add?_eq_none hnone
    exact if_neg (by omega)
  have hsum : balance.toNat = (l.entry a).balance.toNat + amount.toNat := Word.add?_eq_some hsome
  have hlt := balance.isLt
  rw [if_pos (by omega)]
  refine follows_of_ok rfl ⟨?_, rfl⟩
  rw [world_setBalance, world_update_id, hsum]
  rfl

variable {l} in
theorem Change.Follows.bind {m n : Change Unit} {rule : Option World}
    {next : World → Option World} (hm : m.Follows l rule)
    (hn : ∀ l', l'.context = l.context → n.Follows l' (next l'.world)) :
    (m >>= fun _ => n).Follows l (rule >>= next) := by
  refine VectorReplay.Follows.bind hm fun w _ l' h => ?_
  rw [← h.1]
  exact (hn l' h.2).mono fun w' _ l'' h' => ⟨h'.1, h'.2.trans h.2⟩

/-- What a transfer does once its amounts are in range. -/
theorem follows_moves (t : Transfer) (fee tip : Word) (coinbase : Address) :
    (do debit t fee; credit t.recipient t.value; credit coinbase tip : Change Unit).Follows l (do
      let w ← l.world.debit t.sender t.nonce.toNat (t.value.toNat + fee.toNat)
      let w ← w.credit t.recipient t.value.toNat
      w.credit coinbase tip.toNat) := by
  refine (follows_debit l t fee).bind fun l₁ _ => ?_
  refine (follows_credit l₁ t.recipient t.value).bind fun l₂ _ => ?_
  exact follows_credit l₂ coinbase tip

theorem any_ne_eq_not_all {id : UInt64} {chainId : Option UInt64} :
    (chainId.any fun x => decide (x ≠ id)) = !chainId.all fun x => decide (x = id) := by
  cases chainId <;> simp

/-- No sender can pay for gas beyond the range of words. -/
theorem debit_world_eq_none {a : Address} {nonce cost : Nat} (h : 2 ^ 256 ≤ cost) :
    l.world.debit a nonce cost = none := by
  have hlt : l.world.balance a < 2 ^ 256 := (l.entry a).balance.isLt
  exact if_neg (by omega)

/-- A transfer is executed exactly where the rule allows it: the fee of a sender that can pay for it
is in range, and so is the share of the coinbase. -/
theorem follows_transfer (t : Transfer) :
    (transfer t).Follows l (l.world.transfer l.context t) := by
  have hgas : Transfer.gas.toNat = 21000 := rfl
  unfold transfer World.transfer context Change.Follows
  rw [follows_step (get_apply l)]
  dsimp only
  rw [any_ne_eq_not_all]
  by_cases hid : (l.chainId.all fun x => decide (x = t.chainId)) = true
  case neg =>
    rw [if_pos (by simpa using hid), if_neg fun h => hid h.1]
    exact follows_of_error rfl
  rw [if_neg (by rw [hid]; nofun)]
  refine follows_checked l (fun hwide => ?_) fun fee hfee => ?_
  · have hcost := Word.mul?_eq_none hwide
    rw [hgas] at hcost
    rw [debit_world_eq_none l (by omega)]
    exact ite_self none
  have hprice := Word.mul?_eq_some hfee
  refine follows_checked l (fun hlow => ?_) fun margin hmargin => ?_
  · have hbase := Word.sub?_eq_none hlow
    exact if_neg (by omega)
  have hshare := Word.sub?_eq_some hmargin
  refine follows_checked l (fun hwide => ?_) fun tip htip => ?_
  · -- the share is at most the fee, which is in range
    have hcost := Word.mul?_eq_none hwide
    have hfeeLt := fee.isLt
    rw [hgas] at hcost hprice
    omega
  have htotal := Word.mul?_eq_some htip
  have h := follows_moves l t fee tip l.coinbase
  rw [hgas] at hprice htotal
  rw [hprice, htotal, hshare] at h
  rw [if_pos ⟨hid, Word.le_of_sub?_eq_some hmargin⟩]
  exact h

theorem follows_submit (crypto : Crypto) (encoded : Bytes) :
    (submit crypto encoded).Follows l (l.world.submit crypto l.context encoded) := by
  unfold submit World.submit
  cases Transfer.decode crypto encoded with
  | error e => exact follows_of_error rfl
  | ok t => exact follows_transfer l t

end Ledger

end VectorReplay
