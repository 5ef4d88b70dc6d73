import VectorReplay.Proofs.Protocol.Order
import VectorReplay.Proofs.Protocol.Warnings

/-!
The gas of a replay. The receipts that a node hands out are summed as words, and the replay aborts
where the exact sum is no word, after every transaction was confirmed.
-/
namespace VectorReplay

/-! ### Sums of words -/

/-- Adding words one after the other finds their exact sum, or nothing. -/
theorem Word.foldlM_add?_eq_some_iff {ws : List Word} {a w : Word} :
    ws.foldlM add? a = some w ↔ w.toNat = a.toNat + (ws.map BitVec.toNat).sum := by
  induction ws generalizing a with
  | nil =>
    rw [List.foldlM_nil, List.map_nil, List.sum_nil, Nat.add_zero, BitVec.toNat_inj]
    exact Option.some_inj.trans eq_comm
  | cons x ws ih =>
    rw [List.foldlM_cons, List.map_cons, List.sum_cons, ← Nat.add_assoc]
    cases h : add? a x with
    | none =>
      have hwide := add?_eq_none h
      have hlt := w.isLt
      refine iff_of_false nofun ?_
      omega
    | some b =>
      rw [← add?_eq_some h]
      exact ih

namespace ExecutionResult

/-- The exact sum of the gas that receipts report. -/
def totalGas (rs : List Receipt) : Nat :=
  ((rs.filterMap Receipt.gasUsed).map BitVec.toNat).sum

theorem gasUsed_eq_some_iff {r : ExecutionResult} {w : Word} :
    r.gasUsed = some w ↔ w.toNat = totalGas r.receipts := by
  rw [gasUsed, Word.foldlM_add?_eq_some_iff, totalGas]
  exact ⟨fun h => h.trans (Nat.zero_add _), fun h => h.trans (Nat.zero_add _).symm⟩

theorem gasUsed_eq_none_iff {r : ExecutionResult} :
    r.gasUsed = none ↔ 2 ^ 256 ≤ totalGas r.receipts := by
  constructor
  · intro h
    by_contra hlt
    have hsome : r.gasUsed = some (BitVec.ofNat 256 (totalGas r.receipts)) :=
      gasUsed_eq_some_iff.mpr ((BitVec.toNat_ofNat _ _).trans (Nat.mod_eq_of_lt (not_le.mp hlt)))
    rw [h] at hsome
    cases hsome
  · intro h
    refine Option.eq_none_iff_forall_ne_some.mpr fun w hw => ?_
    have hsum := gasUsed_eq_some_iff.mp hw
    have hlt := w.isLt
    omega

end ExecutionResult

/-! ### Receipts that are handed out -/

/-- The receipt that an exchange carries. -/
def Exchange.receipt? : Exchange → Option Receipt
  | ⟨.receipt _, .ok r⟩ => r
  | _ => none

namespace Replay

open ExecutionResult (totalGas)

/-- The receipts among exchanges, in their order. -/
def handedOut (es : List Exchange) : List Receipt :=
  es.filterMap Exchange.receipt?

theorem handedOut_pendingPolls (h : Hash) (count : Nat) :
    handedOut (pendingPolls h count) = [] := by
  rw [handedOut, List.filterMap_eq_nil_iff]
  intro x hx
  rw [List.eq_of_mem_replicate hx]
  rfl

theorem Polled.receipts {h : Hash} {es : List Exchange} {r : Except Fault Receipt}
    (hp : Polled h es r) : handedOut es = r.toOption.toList := by
  cases hp with
  | found pending r =>
    rw [handedOut, List.filterMap_append]
    exact congrArg (· ++ [r]) (handedOut_pendingPolls h pending)
  | failed pending f =>
    rw [handedOut, List.filterMap_append]
    exact congrArg (· ++ []) (handedOut_pendingPolls h pending)
  | stalled pending => exact handedOut_pendingPolls h pending

theorem Attempted.receipts {t : Transaction} {es : List Exchange} {r : Except Fault Receipt}
    (ha : Attempted t es r) : handedOut es = r.toOption.toList := by
  cases ha with
  | refused f => rfl
  | accepted hp => exact hp.receipts

/-- Transactions that are all confirmed have one receipt each; of others there are fewer. -/
theorem Trail.receipts {ts : List Transaction} {es : List Exchange}
    {rs : Except Fault (List Receipt)} (h : Trail ts es rs) :
    (∀ xs, rs = .ok xs → handedOut es = xs ∧ xs.length = ts.length) ∧
    (∀ f, rs = .error f → (handedOut es).length < ts.length) := by
  induction h with
  | done => exact ⟨by rintro _ ⟨⟩; exact ⟨rfl, rfl⟩, nofun⟩
  | failed ha =>
    refine ⟨nofun, fun f _ => ?_⟩
    rw [ha.receipts]
    exact Nat.succ_pos _
  | @confirmed t ts es es' r rs ha _ ih =>
    have hes : handedOut (es ++ es') = r :: handedOut es' := by
      rw [handedOut, List.filterMap_append]
      exact congrArg (· ++ handedOut es') ha.receipts
    rw [hes]
    cases rs with
    | ok xs =>
      obtain ⟨rfl, hlength⟩ := ih.1 xs rfl
      exact ⟨by rintro _ ⟨⟩; exact ⟨rfl, congrArg Nat.succ hlength⟩, nofun⟩
    | error f =>
      exact ⟨nofun, fun _ _ => Nat.succ_lt_succ (ih.2 f rfl)⟩

/-- Transactions are given up after a call that failed, or when patience ends. -/
theorem Trail.fault {ts : List Transaction} {es : List Exchange} {rs : Except Fault (List Receipt)}
    {f : Fault} (h : Trail ts es rs) (hrs : rs = .error f) :
    f = .stalled ∨ ∃ x ∈ es, x.Failed f := by
  induction h with
  | done => cases hrs
  | failed ha =>
    cases hrs
    cases ha with
    | refused => exact .inr ⟨_, List.mem_cons_self, rfl⟩
    | @accepted h _ _ hp =>
      cases hp with
      | failed pending => exact .inr ⟨⟨.receipt h, .error f⟩, by simp, rfl⟩
      | stalled pending => exact .inl rfl
  | @confirmed t ts es es' r rs ha _ ih =>
    cases rs with
    | ok xs => cases hrs
    | error g =>
      cases hrs
      obtain hstalled | ⟨x, hx, hf⟩ := ih rfl
      · exact .inl hstalled
      · exact .inr ⟨x, List.mem_append_right es hx, hf⟩

section
variable {σ : Type} (crypto : Crypto) (node : Node σ) (patience : Nat) (b : Block)

/-- A replay that comes to a result was able to sum its gas. -/
theorem does_block_summed : (block crypto node patience b).Does fun _ r =>
    ∀ result, r = .ok result → result.gasUsed ≠ none := by
  unfold block
  split
  · exact Stage.does_throw nofun
  · refine (does_transactions crypto node patience 0 b.transactions).bind (fun _ _ _ => nofun)
      fun es rs _ => ?_
    refine (does_conclude b.header.gasUsed ⟨rs⟩).bind (fun _ _ _ => nofun) fun es' _ h => ?_
    obtain ⟨-, ⟨-, ⟨⟩⟩ | ⟨hsome, -⟩⟩ := h
    refine Stage.does_pure ?_
    rintro _ ⟨⟩
    exact hsome

/-- How a replay of a block ends by the gas of the receipts that it was handed out. -/
structure Accounted (b : Block) (es : List Exchange) (r : Except Fault ExecutionResult) : Prop where
  /-- It aborts for two reasons: a call did, or every transaction has a receipt and they report more
  gas than a word holds. -/
  aborts : r = .error .aborted ↔ (∃ x ∈ es, x.Failed .aborted) ∨
    (handedOut es).length = b.transactions.length ∧ 2 ^ 256 ≤ totalGas (handedOut es)
  /-- The total of a result is the exact sum. -/
  total : ∀ result, r = .ok result → result.receipts = handedOut es ∧
    ∃ total, result.gasUsed = some total ∧ total.toNat = totalGas result.receipts

theorem block_accounted (s : σ) :
    Accounted b (block crypto node patience b (Run.start s)).2.exchanges
      (block crypto node patience b (Run.start s)).1 := by
  have hends := (does_block_summed crypto node patience b).and
    (obeys_block crypto node patience b).does
  obtain ⟨hcourse, hsummed, -, hsettles⟩ := ((does_block crypto node patience b).and hends).start s
  generalize (block crypto node patience b (Run.start s)).1 = r at *
  generalize (block crypto node patience b (Run.start s)).2.exchanges = es at *
  refine ⟨⟨?aborts, ?conversely⟩, ?total⟩
  case aborts =>
    rintro rfl
    cases hcourse with
    | failed _ htrail =>
      obtain ⟨⟨⟩⟩ | hcall := htrail.fault rfl
      exact .inl hcall
    | overflow _ htrail hgas =>
      obtain ⟨rfl, hlength⟩ := htrail.receipts.1 _ rfl
      exact .inr ⟨hlength, ExecutionResult.gasUsed_eq_none_iff.mp hgas⟩
  case conversely =>
    rintro (⟨x, hx, hf⟩ | ⟨hlength, hwide⟩)
    · obtain ⟨before, after, rfl⟩ := List.append_of_mem hx
      exact (hsettles.of_failed rfl hf).2
    · cases hcourse with
      | empty => exact absurd hwide (by decide)
      | failed _ htrail => exact absurd hlength (htrail.receipts.2 _ rfl).ne
      | overflow => rfl
      | done _ htrail =>
        obtain ⟨rfl, -⟩ := htrail.receipts.1 _ rfl
        exact absurd (ExecutionResult.gasUsed_eq_none_iff.mpr hwide) (hsummed _ rfl)
  case total =>
    rintro result rfl
    cases hcourse with
    | done _ htrail =>
      obtain ⟨rfl, -⟩ := htrail.receipts.1 _ rfl
      obtain ⟨total, htotal⟩ := Option.ne_none_iff_exists'.mp (hsummed _ rfl)
      exact ⟨rfl, total, htotal, ExecutionResult.gasUsed_eq_some_iff.mp htotal⟩

end

/-- A node that accepts every call; each receipt reports half of what a word holds. -/
def lavish : Node Unit where
  answer
    | .submit encoded, s => (.ok (Crypto.ethereum.hash encoded), s)
    | .receipt h, s => (.ok (some ⟨h, none, some (2 ^ 255), none⟩), s)
    | c, s => Undeclared.obliging.answer c s

theorem lavish_accepting : lavish.Accepting := by
  intro c s
  cases c <;> exact ⟨_, _, rfl⟩

open Undeclared (form block_decoded) in
/-- Two such receipts are too many. -/
theorem not_block_summed_lavish :
    Block.decode (form [27, 37, 39]).encode = .ok (Undeclared.block [27, 37, 39]) ∧
    (Undeclared.block [27, 37, 39]).transactions ≠ [] ∧ lavish.Accepting ∧
    (block .ethereum lavish 1 (Undeclared.block [27, 37, 39]) (Run.start ())).1 = .error .aborted :=
  ⟨block_decoded, nofun, lavish_accepting, by decide +kernel⟩

end Replay

end VectorReplay
