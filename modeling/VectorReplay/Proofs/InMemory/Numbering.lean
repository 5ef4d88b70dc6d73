import Mathlib.Data.Set.Function
import VectorReplay.Proofs.InMemory.Submission
import VectorReplay.Proofs.Protocol.Trace
import VectorReplay.Proofs.Submissions
import VectorReplay.Proofs.Table

/-!
What the in-memory node accepts in a run. The nonces of every sender go up by one from the seeded nonce,
so no transfer goes through twice, and receipts are numbered without gaps and stay as they are.
-/
namespace VectorReplay

open Stage (Settles)

/-! ### Accepted encodings -/

/-- The encoding of a submission that goes well. -/
def Exchange.acceptance? : Exchange → Option Bytes
  | ⟨.submit encoded, .ok _⟩ => some encoded
  | _ => none

def acceptances (es : List Exchange) : List Bytes :=
  es.filterMap Exchange.acceptance?

theorem Exchange.acceptance?_eq_some {x : Exchange} {encoded : Bytes} :
    x.acceptance? = some encoded ↔ ∃ h : Hash, x = ⟨.submit encoded, .ok h⟩ := by
  constructor
  · intro h
    unfold acceptance? at h
    split at h
    next e hash => exact ⟨hash, by rw [Option.some.inj h]⟩
    next => cases h
  · rintro ⟨h, rfl⟩
    rfl

theorem acceptances_append (es es' : List Exchange) :
    acceptances (es ++ es') = acceptances es ++ acceptances es' :=
  List.filterMap_append

theorem acceptances_cons (x : Exchange) (es : List Exchange) :
    acceptances (x :: es) = x.acceptance?.toList ++ acceptances es := by
  unfold acceptances
  cases h : x.acceptance? <;> simp [h]

theorem acceptances_subset (es : List Exchange) : acceptances es ⊆ submissions es := by
  intro encoded h
  obtain ⟨x, hx, hsome⟩ := List.mem_filterMap.mp h
  obtain ⟨hash, rfl⟩ := Exchange.acceptance?_eq_some.mp hsome
  exact List.mem_filterMap.mpr ⟨_, hx, rfl⟩

theorem acceptances_of_isAdministrative {es : List Exchange}
    (h : ∀ x ∈ es, x.call.isAdministrative) : acceptances es = [] := by
  refine List.filterMap_eq_nil_iff.mpr fun x hx => Option.eq_none_iff_forall_ne_some.mpr ?_
  intro encoded hsome
  obtain ⟨hash, rfl⟩ := Exchange.acceptance?_eq_some.mp hsome
  cases h _ hx

theorem Exchange.Failed.acceptance?_eq_none {x : Exchange} {f : Fault} (h : x.Failed f) :
    x.acceptance? = none := by
  refine Option.eq_none_iff_forall_ne_some.mpr fun encoded hsome => ?_
  obtain ⟨hash, rfl⟩ := Exchange.acceptance?_eq_some.mp hsome
  cases h

/-- A call that goes well has its encoding accepted, or it is no submission. -/
theorem Exchange.Answered.cases {x : Exchange} (h : x.Answered) :
    (∃ (encoded : Bytes) (hash : Hash), x = ⟨.submit encoded, .ok hash⟩) ∨
    x.acceptance? = none ∧ ∀ encoded, x.call ≠ .submit encoded := by
  obtain ⟨c, reply⟩ := x
  obtain ⟨a, rfl⟩ : ∃ a, reply = .ok a := h
  cases c with
  | submit encoded => exact .inl ⟨encoded, a, rfl⟩
  | _ => exact .inr ⟨rfl, by nofun⟩

/-- Everything that is accepted comes before the first call that fails. -/
theorem Stage.Settles.exists_answered {α : Type} {own : Fault → Prop} {es : List Exchange}
    {r : Except Fault α} (h : Settles own es r) :
    ∃ front back, es = front ++ back ∧ (∀ x ∈ front, x.Answered) ∧ acceptances back = [] := by
  cases h with
  | well h | ownFault h _ => exact ⟨es, [], (List.append_nil es).symm, h, rfl⟩
  | @failedCall es x f h hx =>
    refine ⟨es, [x], rfl, h, ?_⟩
    rw [acceptances_cons, hx.acceptance?_eq_none]
    rfl

/-! ### Transfers in turn -/

/-- Each transfer has the nonce at which its sender is, and counts it up. -/
inductive InTurn : (nonces : Address → Nat) → List Transfer → Prop
  | nil {nonces : Address → Nat} : InTurn nonces []
  | cons {nonces : Address → Nat} {t : Transfer} {ts : List Transfer} :
    nonces t.sender = t.nonce.toNat →
    InTurn (Function.update nonces t.sender (t.nonce.toNat + 1)) ts → InTurn nonces (t :: ts)

/-- The nonces of one sender, in the order of its transfers. -/
def noncesOf (a : Address) (ts : List Transfer) : List Nat :=
  (ts.filter (·.sender = a)).map (·.nonce.toNat)

namespace InTurn

variable {nonces : Address → Nat} {ts : List Transfer}

/-- The nonces of a sender are consecutive. -/
theorem noncesOf_eq (h : InTurn nonces ts) (a : Address) :
    noncesOf a ts = List.range' (nonces a) (noncesOf a ts).length := by
  induction h with
  | nil => rfl
  | @cons nonces t ts ht _ ih =>
    by_cases ha : t.sender = a
    · subst ha
      have hcons : noncesOf t.sender (t :: ts) = t.nonce.toNat :: noncesOf t.sender ts := by
        simp [noncesOf]
      rw [Function.update_self] at ih
      rw [hcons, List.length_cons, List.range'_succ, ht, ← ih]
    · have hskip : noncesOf a (t :: ts) = noncesOf a ts := by
        simp [noncesOf, ha]
      rw [Function.update_of_ne (Ne.symm ha)] at ih
      rw [hskip, ← ih]

theorem nodup (h : InTurn nonces ts) : (ts.map fun t => (t.sender, t.nonce)).Nodup := by
  induction h with
  | nil => exact List.nodup_nil
  | @cons nonces t ts ht hts ih =>
    refine List.nodup_cons.mpr ⟨fun hmem => ?_, ih⟩
    obtain ⟨t', ht', heq⟩ := List.mem_map.mp hmem
    obtain ⟨hsender, hnonce⟩ := Prod.mk.inj heq
    -- later nonces of this sender are all above the one that was counted up
    have hlater : t.nonce.toNat ∈ noncesOf t.sender ts := by
      rw [← hnonce, ← hsender]
      exact List.mem_map_of_mem (List.mem_filter.mpr ⟨ht', by simp⟩)
    rw [hts.noncesOf_eq, Function.update_self, List.mem_range'_1] at hlater
    omega

end InTurn

/-! ### Seeded nonces -/

/-- What a call makes of the nonces, unless it submits a transaction. -/
def Call.nonces : Call → (Address → Nat) → Address → Nat
  | .setNonce a nonce, nonces => Function.update nonces a nonce.toNat
  | _, nonces => nonces

theorem Call.nonces_of_not_isAdministrative {c : Call} (h : ¬ c.isAdministrative)
    (nonces : Address → Nat) : c.nonces nonces = nonces := by
  cases c <;> first | rfl | exact absurd rfl h

namespace Seed

/-- The nonces of accounts that are written one after the other. -/
def nonces (pre : Accounts) : Address → Nat :=
  pre.foldl (fun nonces e => Function.update nonces e.1 e.2.nonce.toNat) fun _ => 0

theorem foldl_nonces_of_quiet {cs : List Call} (h : ∀ c ∈ cs, ∀ nonces, c.nonces nonces = nonces)
    (nonces : Address → Nat) : cs.foldl (fun nonces c => c.nonces nonces) nonces = nonces := by
  induction cs with
  | nil => rfl
  | cons c cs ih =>
    rw [List.foldl_cons, h c List.mem_cons_self, ih fun d hd => h d (List.mem_cons_of_mem c hd)]

theorem foldl_nonces_accountPlan (a : Address) (x : Account) (nonces : Address → Nat) :
    (accountPlan a x).foldl (fun nonces c => c.nonces nonces) nonces =
      Function.update nonces a x.nonce.toNat := by
  have hquiet : ∀ c ∈ (accountPlan a x).drop 3, ∀ nonces, c.nonces nonces = nonces := by
    intro c hc nonces
    obtain ⟨e, -, rfl⟩ := List.mem_map.mp hc
    rfl
  exact foldl_nonces_of_quiet hquiet _

theorem foldl_nonces_plan (pre : Accounts) (b : Block) :
    (plan pre b).foldl (fun nonces c => c.nonces nonces) (fun _ => 0) = nonces pre := by
  have hcontext : ∀ c ∈ contextPlan b, ∀ nonces, c.nonces nonces = nonces := by
    intro c hc nonces
    simp only [contextPlan, List.mem_append, List.mem_cons, List.mem_map, List.not_mem_nil,
      or_false] at hc
    rcases hc with ⟨_, -, rfl⟩ | rfl | ⟨_, -, rfl⟩ | rfl <;> rfl
  rw [plan, List.foldl_append, foldl_nonces_of_quiet hcontext, List.foldl_flatMap, Seed.nonces]
  simp only [foldl_nonces_accountPlan]

end Seed

namespace InMemory

variable {crypto : Crypto} {m m' : InMemory} {es : List Exchange}

/-! ### Nonces along a run -/

/-- A poll changes neither the ledger nor the receipts. -/
theorem kept_of_receipt {hash : Hash} {reply : Except Fault (Option Receipt)}
    (h : receipt hash m = (reply, m')) : m'.ledger = m.ledger ∧ m'.receipts = m.receipts := by
  unfold receipt at h
  split at h
  next =>
    cases h
    exact ⟨rfl, rfl⟩
  next => split at h <;> cases h <;> exact ⟨rfl, rfl⟩

theorem nonces_of_answered {c : Call} {reply : c.Reply} (hc : ∀ encoded, c ≠ .submit encoded)
    (h : (node crypto).answer c m = (.ok reply, m')) :
    m'.ledger.world.nonce = c.nonces m.ledger.world.nonce := by
  have hreachable := reachable_of_ok h
  cases c with
  | submit encoded => exact absurd rfl (hc encoded)
  | receipt hash =>
    rw [(kept_of_receipt hreachable).1]
    rfl
  | setCode | setBalance | setNonce | setStorage =>
    cases hreachable
    simp only [Ledger.world_update, Ledger.update_nonce_self, Call.nonces]
  | _ =>
    cases hreachable
    rfl

theorem nonces_of_seeding (h : (node crypto).Trace m es m') (answered : ∀ x ∈ es, x.Answered)
    (administrative : ∀ x ∈ es, x.call.isAdministrative) : m'.ledger.world.nonce =
      (administration es).foldl (fun nonces c => c.nonces nonces) m.ledger.world.nonce := by
  induction h with
  | nil => rfl
  | @cons m m₁ m' x es hx _ ih =>
    obtain ⟨⟨reply, hreply⟩, hanswered⟩ := List.forall_mem_cons.mp answered
    obtain ⟨hcall, hadministrative⟩ := List.forall_mem_cons.mp administrative
    have hnew : administration (x :: es) = x.call :: administration es :=
      List.filterMap_cons_some (if_pos hcall)
    have hsubmit : ∀ encoded, x.call ≠ .submit encoded := by
      intro encoded heq
      rw [heq] at hcall
      cases hcall
    rw [hreply] at hx
    rw [ih hanswered hadministrative, hnew, List.foldl_cons, nonces_of_answered hsubmit hx]

/-- After seeding, what is accepted are transfers in turn. -/
theorem exists_inTurn (h : (node crypto).Trace m es m') (answered : ∀ x ∈ es, x.Answered)
    (seeded : ∀ x ∈ es, ¬ x.call.isAdministrative) : ∃ ts,
      List.Forall₂ (fun encoded t => Transfer.decode crypto encoded = .ok t) (acceptances es) ts ∧
      InTurn m.ledger.world.nonce ts := by
  induction h with
  | nil => exact ⟨[], .nil, .nil⟩
  | @cons m m₁ m' x es hx _ ih =>
    obtain ⟨hx', hanswered⟩ := List.forall_mem_cons.mp answered
    obtain ⟨hcall, hseeded⟩ := List.forall_mem_cons.mp seeded
    -- the rest is in turn from the nonces that the first exchange leaves
    obtain ⟨ts, hts, hturn⟩ := ih hanswered hseeded
    rcases hx'.cases with ⟨encoded, hash, rfl⟩ | ⟨hnone, hsubmit⟩
    · obtain ⟨-, ledger, hledger, rfl⟩ := submit_eq_ok (reachable_of_ok hx)
      obtain ⟨t, hdecode, hmoved, -⟩ := Ledger.moved_of_submit hledger
      rw [hmoved.nonce] at hturn
      exact ⟨t :: ts, .cons hdecode hts, .cons hmoved.counted hturn⟩
    · obtain ⟨reply, hreply⟩ := hx'
      rw [hreply] at hx
      rw [nonces_of_answered hsubmit hx, Call.nonces_of_not_isAdministrative hcall] at hturn
      rw [acceptances_cons, hnone]
      exact ⟨ts, hts, hturn⟩

/-! ### Receipts along a run -/

/-- The receipt of an encoding that is accepted after `k` others. -/
def numbered (crypto : Crypto) (k : Nat) (encoded : Bytes) : Receipt where
  transaction := crypto.hash encoded
  blockNumber := some (UInt64.ofNat (k + 1))
  gasUsed := some Transfer.gas
  status := some 1

def record (crypto : Crypto) (receipts : Table Hash Receipt) (encoded : Bytes) :
    Table Hash Receipt :=
  receipts.set (crypto.hash encoded) (numbered crypto receipts.length encoded)

theorem receipts_of_answer {c : Call} {reply : Except Fault c.Reply}
    (h : (node crypto).answer c m = (reply, m')) : m'.receipts =
      (Exchange.acceptance? ⟨c, reply⟩).toList.foldl (record crypto) m.receipts := by
  cases hu : m.unreachable with
  | true =>
    rw [answer_of_unreachable hu] at h
    cases h
    cases c <;> rfl
  | false =>
    rw [answer_of_reachable hu] at h
    cases c with
    | submit encoded =>
      cases reply with
      | ok hash =>
        obtain ⟨rfl, ledger, -, rfl⟩ := submit_eq_ok h
        rfl
      | error f =>
        simp only [reachable, submit] at h
        split at h
        all_goals cases h
        all_goals rfl
    | receipt hash => exact (kept_of_receipt h).2
    | _ =>
      cases h
      rfl

theorem receipts_of_trace (h : (node crypto).Trace m es m') :
    m'.receipts = (acceptances es).foldl (record crypto) m.receipts := by
  induction h with
  | nil => rfl
  | cons hx _ ih => rw [ih, receipts_of_answer hx, acceptances_cons, List.foldl_append]

/-- The receipts of encodings that were accepted one after the other. -/
def receiptsOf (crypto : Crypto) (encodings : List Bytes) : Table Hash Receipt :=
  encodings.mapIdx fun k encoded => (crypto.hash encoded, numbered crypto k encoded)

theorem keys_receiptsOf (crypto : Crypto) (encodings : List Bytes) :
    (receiptsOf crypto encodings).map Prod.fst = encodings.map crypto.hash := by
  refine List.ext_getElem? fun k => ?_
  rw [receiptsOf, List.getElem?_map, List.getElem?_mapIdx, List.getElem?_map, Option.map_map]
  rfl

section
variable {encodings : List Bytes} (distinct : (encodings.map crypto.hash).Nodup)
include distinct

/-- Without collisions of hashes, no receipt is written over. -/
theorem foldl_record : encodings.foldl (record crypto) [] = receiptsOf crypto encodings := by
  induction encodings using List.reverseRecOn with
  | nil => rfl
  | append_singleton encodings encoded ih =>
    rw [List.map_append, List.nodup_append] at distinct
    obtain ⟨hfront, -, hnew⟩ := distinct
    have hkey : crypto.hash encoded ∉ (receiptsOf crypto encodings).map Prod.fst := by
      rw [keys_receiptsOf]
      intro hmem
      exact hnew _ hmem _ List.mem_cons_self rfl
    rw [List.foldl_append, ih hfront, List.foldl_cons, List.foldl_nil, record,
      Table.set_of_not_mem _ hkey]
    simp only [receiptsOf, List.length_mapIdx, List.mapIdx_concat]

theorem get?_receiptsOf {k : Nat} {encoded : Bytes} (h : encodings[k]? = some encoded) :
    (receiptsOf crypto encodings).get? (crypto.hash encoded) = some (numbered crypto k encoded) := by
  refine Table.get?_of_mem (by rwa [keys_receiptsOf]) (List.mem_of_getElem? (i := k) ?_)
  rw [receiptsOf, List.getElem?_mapIdx, h]
  rfl

end

/-- Encodings of different transfers are different. -/
theorem nodup_of_transfers {encodings : List Bytes} {ts : List Transfer}
    (h : List.Forall₂ (fun encoded t => Transfer.decode crypto encoded = .ok t) encodings ts)
    (distinct : (ts.map fun t => (t.sender, t.nonce)).Nodup) : encodings.Nodup := by
  have hmap : encodings.map (Transfer.decode crypto) = ts.map Except.ok := by
    clear distinct
    induction h with
    | nil => rfl
    | cons hdecode _ ih => rw [List.map_cons, List.map_cons, hdecode, ih]
  refine List.Nodup.of_map (Transfer.decode crypto) ?_
  rw [hmap]
  exact (distinct.of_map _).map fun _ _ => Except.ok.inj

/-! ### Whole runs -/

/-- How a run from this node counts: nonces by their senders, and receipts. -/
structure Counted (crypto : Crypto) (pre : Accounts) (start : InMemory) (run : Run InMemory) :
    Prop where
  /-- What is accepted are transfers, no two of them with the same sender and nonce, and the nonces of
  each sender are consecutive from its seeded nonce. -/
  transfers : ∃ ts, List.Forall₂ (fun encoded t => Transfer.decode crypto encoded = .ok t)
      (acceptances run.exchanges) ts ∧
    (ts.map fun t => (t.sender, t.nonce)).Nodup ∧
    ∀ a, noncesOf a ts = List.range' (Seed.nonces pre a) (noncesOf a ts).length
  /-- Unless hashes of submissions collide, the node has at every moment the receipts of all that it
  accepted so far, numbered from one. -/
  receipts : Set.InjOn crypto.hash {encoded | encoded ∈ submissions run.exchanges} →
    ∀ before after, run.exchanges = before ++ after → ∃ m,
      (node crypto).Trace start before m ∧ (node crypto).Trace m after run.node ∧
      ∀ k encoded, (acceptances before)[k]? = some encoded →
        m.receipts.get? (crypto.hash encoded) = some (numbered crypto k encoded)

/-- Along the plan of seeding the nonces are set; from there on they count. -/
theorem inTurn_of_phased {α : Type} {own : Fault → Prop} {r : Except Fault α} {pre : Accounts}
    {b : Block} (htrace : (node crypto).Trace m es m') (hm : m.ledger = .empty)
    (hphased : Phased (Seed.plan pre b) b.transactions es) (hsettles : Settles own es r) : ∃ ts,
      List.Forall₂ (fun encoded t => Transfer.decode crypto encoded = .ok t) (acceptances es) ts ∧
      InTurn (Seed.nonces pre) ts := by
  -- a call that fails may leave any nonce behind, but nothing is accepted from there on
  obtain ⟨front, back, rfl, hanswered, hback⟩ := hsettles.exists_answered
  obtain ⟨m₂, hfront, -⟩ := htrace.split
  rw [acceptances_append, hback, List.append_nil]
  rcases hphased.front with hseeding | ⟨opening, later, rfl, hopening, hplan, hlater⟩
  · rw [acceptances_of_isAdministrative hseeding]
    exact ⟨[], .nil, .nil⟩
  · obtain ⟨m₁, hseed, hreplay⟩ := hfront.split
    obtain ⟨hanswered, hanswered'⟩ := List.forall_mem_append.mp hanswered
    have hnonces : m₁.ledger.world.nonce = Seed.nonces pre := by
      rw [nonces_of_seeding hseed hanswered hopening, hplan, hm, Ledger.world_empty]
      exact Seed.foldl_nonces_plan pre b
    rw [acceptances_append, acceptances_of_isAdministrative hopening, List.nil_append, ← hnonces]
    exact exists_inTurn hreplay hanswered' hlater

/-- Every run on a fresh node counts, with any patience, if the node can be reached or not. -/
theorem execute_counted (crypto : Crypto) (pendingPolls : Nat) (unreachable : Bool) (patience : Nat)
    (skip : SkipList) (v : TestVector) (b : Block) :
    Counted crypto v.pre { fresh pendingPolls with unreachable } (execute crypto (node crypto)
      patience skip v b (Run.start { fresh pendingPolls with unreachable })).2 := by
  have htrace := trace_execute crypto (node crypto) patience skip v b
    { fresh pendingPolls with unreachable }
  obtain ⟨⟨-, hsettles⟩, hphased⟩ :=
    ((obeys_executeChecks crypto (node crypto) patience skip v b).does.and
      (phased_executeChecks crypto (node crypto) patience skip v b)).start
      { fresh pendingPolls with unreachable }
  rw [← exchanges_execute] at hsettles hphased
  generalize (execute crypto (node crypto) patience skip v b _).2 = run at *
  obtain ⟨ts, hts, hturn⟩ := inTurn_of_phased htrace rfl hphased hsettles
  refine ⟨⟨ts, hts, hturn.nodup, hturn.noncesOf_eq⟩, fun hinj before after hes => ?_⟩
  rw [hes] at htrace
  obtain ⟨m, hbefore, hafter⟩ := htrace.split
  -- as no transfer comes twice, no encoding does, and no hash
  have hhashes : ((acceptances run.exchanges).map crypto.hash).Nodup := by
    refine (nodup_of_transfers hts hturn.nodup).map_on fun x hx y hy => ?_
    exact hinj (acceptances_subset _ hx) (acceptances_subset _ hy)
  rw [hes, acceptances_append, List.map_append] at hhashes
  have hdistinct := (List.nodup_append.mp hhashes).1
  refine ⟨m, hbefore, hafter, fun k encoded hk => ?_⟩
  rw [receipts_of_trace hbefore]
  exact (congrArg (Table.get? · _) (foldl_record hdistinct)).trans (get?_receiptsOf hdistinct hk)

/-! ### A payment that is repeated -/

namespace Repeated

open Payment (payer)
open Solo (payment)

/-- Every signature is the payer's, and a hash is the sum of the bytes. -/
def summing : Crypto :=
  { Payment.crypto with hash := fun b => FixedBytes.ofNat 32 (b.map UInt8.toNat).sum }

def transaction (nonce : Bytes) : Transaction where
  kind := .legacy
  chainId := some 1
  nonce := Word.ofBytes nonce
  encoded := payment nonce

/-- Two payments, and the first one again. -/
def block : Block where
  header := Payment.header
  transactions := [transaction [], transaction [1], transaction []]

def vector : TestVector :=
  { Payment.vector with pre := [(payer, ⟨[], 1000000, 0, .empty⟩)] }

def run : Run InMemory :=
  (execute summing (node summing) 2 .standard vector block (Run.start (fresh 1))).2

end Repeated

open Repeated Solo in
/-- The third submission is refused, and the second one keeps its number. -/
theorem execute_counted_repeated :
    submissions run.exchanges = [payment [], payment [1], payment []] ∧
    acceptances run.exchanges = [payment [], payment [1]] ∧
    Set.InjOn summing.hash {encoded | encoded ∈ submissions run.exchanges} ∧
    Counted summing vector.pre (fresh 1) run ∧
    run.node.receipts.get? (summing.hash (payment [1])) =
      some (numbered summing 1 (payment [1])) := by
  have hsubmitted : submissions run.exchanges = [payment [], payment [1], payment []] := by
    decide +kernel
  have haccepted : acceptances run.exchanges = [payment [], payment [1]] := by decide +kernel
  have hinj : Set.InjOn summing.hash {encoded | encoded ∈ submissions run.exchanges} := by
    have hdistinct : ∀ x ∈ [payment [], payment [1], payment []], ∀ y ∈
        [payment [], payment [1], payment []],
        summing.hash x = summing.hash y → x = y := by
      decide +kernel
    rw [hsubmitted]
    exact fun x hx y hy => hdistinct x hx y hy
  have hcounted : Counted summing vector.pre (fresh 1) run :=
    execute_counted summing 1 false 2 .standard vector block
  refine ⟨hsubmitted, haccepted, hinj, hcounted, ?_⟩
  obtain ⟨m, -, hafter, hreceipts⟩ := hcounted.receipts hinj run.exchanges [] (by simp)
  cases hafter
  exact hreceipts 1 (payment [1]) (by rw [haccepted]; rfl)

end InMemory

end VectorReplay
