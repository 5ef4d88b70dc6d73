import VectorReplay.Proofs.Protocol.Confirmation

/-!
Replays in lockstep with a node, whatever it answers. A replay confirms one transaction after the
other, until all are confirmed or one is given up. If the receipt of a transaction never comes, the
replay asks for it for as long as it is let.
-/
namespace VectorReplay.Replay

/-! ### The exchanges of a block -/

/-- A confirmed transaction: the hash that its submission was answered with, how often that was
pending, and the receipt that ended the polls. -/
structure Confirmed where
  transaction : Transaction
  accepted : Hash
  pending : Nat
  receipt : Receipt

def Confirmed.exchanges (x : Confirmed) : List Exchange :=
  ⟨.submit x.transaction.encoded, .ok x.accepted⟩ ::
    (pendingPolls x.accepted x.pending ++ [⟨.receipt x.accepted, .ok (some x.receipt)⟩])

/-- A transaction that is given up: its submission or one of its polls fails. -/
inductive Abandoned (t : Transaction) : List Exchange → Fault → Prop
  | refused (f : Fault) : Abandoned t [⟨.submit t.encoded, .error f⟩] f
  | unanswered (accepted : Hash) (pending : Nat) (f : Fault) :
    Abandoned t (⟨.submit t.encoded, .ok accepted⟩ ::
      (pendingPolls accepted pending ++ [⟨.receipt accepted, .error f⟩])) f

/-- One transaction, up to its receipt or fault. -/
inductive Handled (t : Transaction) : List Exchange → Except Fault Receipt → Prop
  | confirmed (accepted : Hash) (pending : Nat) (r : Receipt) :
    Handled t (Confirmed.exchanges ⟨t, accepted, pending, r⟩) (.ok r)
  | abandoned {es : List Exchange} {f : Fault} : Abandoned t es f → Handled t es (.error f)

/-- Polls of a hash that come to an end. -/
inductive Answered (h : Hash) : List Exchange → Except Fault Receipt → Prop
  | found (pending : Nat) (r : Receipt) :
    Answered h (pendingPolls h pending ++ [⟨.receipt h, .ok (some r)⟩]) (.ok r)
  | failed (pending : Nat) (f : Fault) :
    Answered h (pendingPolls h pending ++ [⟨.receipt h, .error f⟩]) (.error f)

theorem Answered.pending {h : Hash} {es : List Exchange} {r : Except Fault Receipt}
    (ha : Answered h es r) : Answered h (⟨.receipt h, .ok none⟩ :: es) r := by
  cases ha with
  | found pending r => exact .found (pending + 1) r
  | failed pending f => exact .failed (pending + 1) f

theorem Answered.handled {t : Transaction} {h : Hash} {es : List Exchange}
    {r : Except Fault Receipt} (ha : Answered h es r) :
    Handled t (⟨.submit t.encoded, .ok h⟩ :: es) r := by
  cases ha with
  | found pending r => exact .confirmed h pending r
  | failed pending f => exact .abandoned (.unanswered h pending f)

/-- Transactions in their order: all of them are confirmed, or those before one that is given up. -/
inductive Sequence (ts : List Transaction) : List Exchange → Except Fault (List Receipt) → Prop
  | done (xs : List Confirmed) : ts = xs.map Confirmed.transaction →
    Sequence ts (xs.flatMap Confirmed.exchanges) (.ok (xs.map Confirmed.receipt))
  | abandoned (xs : List Confirmed) {t : Transaction} {rest : List Transaction}
    {es : List Exchange} {f : Fault} : ts = xs.map Confirmed.transaction ++ t :: rest →
    Abandoned t es f → Sequence ts (xs.flatMap Confirmed.exchanges ++ es) (.error f)

/-- A transaction was accepted after those before it were confirmed; its receipt is waited for. -/
def Waiting (ts : List Transaction) (es : List Exchange) (accepted : Hash) : Prop :=
  ∃ (xs : List Confirmed) (t : Transaction) (rest : List Transaction),
    ts = xs.map Confirmed.transaction ++ t :: rest ∧
      es = xs.flatMap Confirmed.exchanges ++ [⟨.submit t.encoded, .ok accepted⟩]

/-- A block that comes to an end. One without transactions is refused before any call. Of the others
every transaction is confirmed, which aborts only where the total of gas leaves its range, or one is
given up and none is submitted after it. -/
inductive Lockstep (b : Block) : List Exchange → Except Fault ExecutionResult → Prop
  | empty : b.transactions = [] → Lockstep b [] (.error (.failed .emptyBlock))
  | done (xs : List Confirmed) : xs ≠ [] → b.transactions = xs.map Confirmed.transaction →
    ExecutionResult.gasUsed ⟨xs.map Confirmed.receipt⟩ ≠ none →
    Lockstep b (xs.flatMap Confirmed.exchanges) (.ok ⟨xs.map Confirmed.receipt⟩)
  | overflow (xs : List Confirmed) : xs ≠ [] → b.transactions = xs.map Confirmed.transaction →
    ExecutionResult.gasUsed ⟨xs.map Confirmed.receipt⟩ = none →
    Lockstep b (xs.flatMap Confirmed.exchanges) (.error .aborted)
  | abandoned (xs : List Confirmed) {t : Transaction} {rest : List Transaction}
    {es : List Exchange} {f : Fault} : b.transactions = xs.map Confirmed.transaction ++ t :: rest →
    Abandoned t es f → Lockstep b (xs.flatMap Confirmed.exchanges ++ es) (.error f)

theorem Sequence.cons {t : Transaction} {ts : List Transaction} {accepted : Hash} {pending : Nat}
    {r : Receipt} {es : List Exchange} {rs : Except Fault (List Receipt)} (h : Sequence ts es rs) :
    Sequence (t :: ts) (Confirmed.exchanges ⟨t, accepted, pending, r⟩ ++ es) (rs.map (r :: ·)) := by
  cases h with
  | done xs hts =>
    rw [hts, ← List.flatMap_cons]
    exact .done (⟨t, accepted, pending, r⟩ :: xs) rfl
  | abandoned xs hts ha =>
    rw [hts, ← List.append_assoc, ← List.flatMap_cons]
    exact .abandoned (⟨t, accepted, pending, r⟩ :: xs) rfl ha

theorem Waiting.cons {t : Transaction} {ts : List Transaction} {accepted h : Hash} {pending : Nat}
    {r : Receipt} {es : List Exchange} (hw : Waiting ts es h) :
    Waiting (t :: ts) (Confirmed.exchanges ⟨t, accepted, pending, r⟩ ++ es) h := by
  obtain ⟨xs, u, rest, rfl, rfl⟩ := hw
  refine ⟨⟨t, accepted, pending, r⟩ :: xs, u, rest, rfl, ?_⟩
  rw [← List.append_assoc, ← List.flatMap_cons]

/-! ### Stages that end or wait -/

variable {σ α β : Type}

/-- A stage that polls ends once its patience suffices, or it polls a hash for as long as it is let.
`P` tells what it does when it ends, and `Q` what it does before it waits. -/
def Resolves (m : (patience : Nat) → Stage σ α) (P : List Exchange → Except Fault α → Prop)
    (Q : List Exchange → Hash → Prop) : Prop :=
  ∀ run,
    (∃ es out, Stage.Ends m run out ∧ out.2.exchanges = run.exchanges ++ es ∧ P es out.1) ∨
    ∃ es h, Q es h ∧ ∃ enough, ∀ patience, enough ≤ patience →
      (m patience run).1 = .error .stalled ∧
        (m patience run).2.exchanges = run.exchanges ++ (es ++ pendingPolls h patience)

/-- A stage that does not poll ends. -/
theorem resolves_of_does {m : Stage σ α} {P : List Exchange → Except Fault α → Prop}
    (h : m.Does P) (Q : List Exchange → Hash → Prop) : Resolves (fun _ => m) P Q := by
  intro run
  obtain ⟨es, hes, hp⟩ := h run
  exact .inl ⟨es, m run, ⟨0, fun _ _ => rfl⟩, hes, hp⟩

theorem Resolves.bind {m : Nat → Stage σ α} {f : Nat → α → Stage σ β}
    {P : List Exchange → Except Fault α → Prop} {P' : List Exchange → Except Fault β → Prop}
    {Q Q' : List Exchange → Hash → Prop} (hm : Resolves m P Q)
    (hwaits : ∀ es h, Q es h → Q' es h) (herror : ∀ es e, P es (.error e) → P' es (.error e))
    (hok : ∀ es a, P es (.ok a) → Resolves (fun patience => f patience a)
      (fun es' r => P' (es ++ es') r) (fun es' h => Q' (es ++ es') h)) :
    Resolves (fun patience => m patience >>= f patience) P' Q' := by
  intro run
  rcases hm run with ⟨es, ⟨r, run'⟩, ⟨k, hk⟩, hes, hp⟩ | ⟨es, h, hq, k, hk⟩
  · cases r with
    | error e =>
      exact .inl ⟨es, (.error e, run'), ⟨k, fun n hn => bind_of_error (hk n hn)⟩, hes,
        herror es e hp⟩
    | ok a =>
      dsimp only at hes hp
      rcases hok es a hp run' with ⟨es', out, ⟨k', hk'⟩, hes', hp'⟩ | ⟨es', h, hq, k', hk'⟩
      · refine .inl ⟨es ++ es', out, ⟨max k k', fun n hn => ?_⟩, ?_, hp'⟩
        · dsimp only at hk' ⊢
          rw [bind_of_ok (hk n (by omega)), hk' n (by omega)]
        · rw [hes', hes, List.append_assoc]
      · refine .inr ⟨es ++ es', h, hq, max k k', fun n hn => ?_⟩
        dsimp only
        rw [bind_of_ok (hk n (by omega))]
        obtain ⟨hstalled, hexchanges⟩ := hk' n (by omega)
        exact ⟨hstalled, by rw [hexchanges, hes, List.append_assoc, List.append_assoc]⟩
  · refine .inr ⟨es, h, hwaits es h hq, k, fun n hn => ?_⟩
    obtain ⟨hstalled, hexchanges⟩ := hk n hn
    dsimp only
    rw [bind_of_error (Prod.ext hstalled rfl : m n run = (.error .stalled, (m n run).2))]
    exact ⟨rfl, hexchanges⟩

/-! ### Replays end or wait -/

section
variable (crypto : Crypto) (node : Node σ)

/-- However often a hash is polled, either it is pending, or its polls ended and more patience changes
nothing. -/
theorem awaitReceipt_pending_or_ends (h : Hash) (k : Nat) (run : Run σ) :
    ((awaitReceipt node h k run).1 = .error .stalled ∧
      (awaitReceipt node h k run).2.exchanges = run.exchanges ++ pendingPolls h k) ∨
    ∃ es out, (∀ n, k ≤ n → awaitReceipt node h n run = out) ∧
      out.2.exchanges = run.exchanges ++ es ∧ Answered h es out.1 := by
  induction k generalizing run with
  | zero => exact .inl ⟨rfl, (List.append_nil _).symm⟩
  | succ k ih =>
    have hpatient (n : Nat) (hn : k + 1 ≤ n) : ∃ n', n = n' + 1 ∧ k ≤ n' :=
      ⟨n - 1, by omega, by omega⟩
    obtain ⟨reply, run', hpoll⟩ :
        ∃ reply run', Stage.perform node (.receipt h) run = (reply, run') := ⟨_, _, rfl⟩
    have hexchanges : run'.exchanges = run.exchanges ++ [⟨.receipt h, reply⟩] := by
      obtain ⟨es, hes, rfl⟩ := Stage.does_perform_eq node (.receipt h) run
      rwa [hpoll] at hes
    match reply, hpoll, hexchanges with
    | .error f, hpoll, hexchanges =>
      refine .inr ⟨_, (.error f, run'), fun n hn => ?_, hexchanges, .failed 0 f⟩
      obtain ⟨n, rfl, -⟩ := hpatient n hn
      exact bind_of_error hpoll
    | .ok (some r), hpoll, hexchanges =>
      refine .inr ⟨_, (.ok r, run'), fun n hn => ?_, hexchanges, .found 0 r⟩
      obtain ⟨n, rfl, -⟩ := hpatient n hn
      exact bind_of_ok hpoll
    | .ok none, hpoll, hexchanges =>
      -- what follows a pending poll is the same with one poll less
      have hnext (n : Nat) : awaitReceipt node h (n + 1) run = awaitReceipt node h n run' :=
        bind_of_ok hpoll
      rcases ih run' with ⟨hstalled, hes⟩ | ⟨es, out, hout, hes, hanswered⟩
      · rw [hnext k]
        refine .inl ⟨hstalled, ?_⟩
        rw [hes, hexchanges, List.append_assoc]
        rfl
      · refine .inr ⟨⟨.receipt h, .ok none⟩ :: es, out, fun n hn => ?_, ?_, hanswered.pending⟩
        · obtain ⟨n, rfl, hkn⟩ := hpatient n hn
          rw [hnext n, hout n hkn]
        · rw [hes, hexchanges, List.append_assoc]
          rfl

theorem resolves_awaitReceipt (h : Hash) :
    Resolves (fun patience => awaitReceipt node h patience) (Answered h)
      fun es h' => es = [] ∧ h' = h := by
  intro run
  by_cases hends : ∃ k es out, (∀ n, k ≤ n → awaitReceipt node h n run = out) ∧
      out.2.exchanges = run.exchanges ++ es ∧ Answered h es out.1
  · obtain ⟨k, es, out, hout, hes, hanswered⟩ := hends
    exact .inl ⟨es, out, ⟨k, hout⟩, hes, hanswered⟩
  · refine .inr ⟨[], h, ⟨rfl, rfl⟩, 0, fun n _ => ?_⟩
    rcases awaitReceipt_pending_or_ends node h n run with hpending | hout
    · exact hpending
    · exact absurd ⟨n, hout⟩ hends

theorem resolves_transaction (i : Nat) (t : Transaction) :
    Resolves (fun patience => transaction crypto node patience i t) (Handled t)
      fun es h => es = [⟨.submit t.encoded, .ok h⟩] := by
  have hsubmit := Stage.does_perform_eq node (.submit t.encoded)
  simp only [transaction_eq]
  refine (resolves_of_does hsubmit fun _ _ => False).bind nofun ?_ ?_
  · rintro es f rfl
    exact .abandoned (.refused f)
  · rintro es accepted rfl
    refine (resolves_of_does (Stage.does_tell_eq _) fun _ _ => False).bind nofun (by simp) ?_
    rintro es _ ⟨rfl, -⟩
    apply (resolves_awaitReceipt node accepted).bind
    · rintro es h ⟨rfl, rfl⟩
      rfl
    · intro es f hanswered
      exact hanswered.handled
    · intro es r hanswered
      apply resolves_of_does
      refine (Stage.does_tell_eq _).bind (by simp) ?_
      rintro es' _ ⟨rfl, -⟩
      apply Stage.does_pure
      simp only [List.append_nil, List.nil_append]
      exact hanswered.handled

theorem resolves_transactions (i : Nat) (ts : List Transaction) :
    Resolves (fun patience => transactions crypto node patience i ts) (Sequence ts)
      (Waiting ts) := by
  induction ts generalizing i with
  | nil => exact resolves_of_does (Stage.does_pure (.done [] rfl)) _
  | cons t ts ih =>
    apply (resolves_transaction crypto node i t).bind
    · rintro es h rfl
      exact ⟨[], t, ts, rfl, rfl⟩
    · intro es f hhandled
      cases hhandled with
      | abandoned ha => exact .abandoned [] rfl ha
    · intro es r hhandled
      cases hhandled with
      | confirmed accepted pending =>
        apply (ih (i + 1)).bind
        · intro es h hwaiting
          exact hwaiting.cons
        · intro es f hsequence
          exact hsequence.cons
        · intro es rs hsequence
          apply resolves_of_does
          apply Stage.does_pure
          rw [List.append_nil]
          exact hsequence.cons

theorem resolves_block (b : Block) :
    Resolves (fun patience => block crypto node patience b) (Lockstep b)
      (Waiting b.transactions) := by
  unfold block
  cases hempty : b.transactions.isEmpty with
  | true => exact resolves_of_does (Stage.does_throw (.empty (List.isEmpty_iff.mp hempty))) _
  | false =>
    have hne : b.transactions ≠ [] := List.isEmpty_eq_false_iff.mp hempty
    refine (resolves_transactions crypto node 0 b.transactions).bind (fun _ _ hw => hw) ?_ ?_
    · intro es f hsequence
      cases hsequence with
      | abandoned xs hts ha => exact .abandoned xs hts ha
    · intro es rs hsequence
      cases hsequence with
      | done xs hts =>
        have hxs : xs ≠ [] := by
          rintro rfl
          exact hne hts
        apply resolves_of_does
        apply (does_conclude b.header.gasUsed ⟨xs.map Confirmed.receipt⟩).bind
        · rintro es f ⟨rfl, ⟨hgas, ⟨⟩⟩ | ⟨-, ⟨⟩⟩⟩
          rw [List.append_nil]
          exact .overflow xs hxs hts hgas
        · rintro es _ ⟨rfl, ⟨-, ⟨⟩⟩ | ⟨hgas, -⟩⟩
          apply Stage.does_pure
          rw [List.append_nil, List.append_nil]
          exact .done xs hxs hts hgas

/-- On every node, a replay confirms one transaction after the other, in the order of the block: each
is submitted once as it is encoded, and the hash in the answer is polled up to its receipt before the
next submission. With enough patience the replay ends so; or else the receipt of a transaction is
pending for ever, and it is polled as often as patience allows. -/
theorem block_lockstep (b : Block) (s : σ) :
    (∃ out, Stage.Ends (fun patience => block crypto node patience b) (Run.start s) out ∧
      Lockstep b out.2.exchanges out.1) ∨
    ∃ (xs : List Confirmed) (t : Transaction) (rest : List Transaction) (accepted : Hash),
      b.transactions = xs.map Confirmed.transaction ++ t :: rest ∧
      ∃ enough, ∀ patience, enough ≤ patience →
        (block crypto node patience b (Run.start s)).1 = .error .stalled ∧
        (block crypto node patience b (Run.start s)).2.exchanges =
          xs.flatMap Confirmed.exchanges ++
            ⟨.submit t.encoded, .ok accepted⟩ :: pendingPolls accepted patience := by
  rcases resolves_block crypto node b (Run.start s) with
    ⟨es, out, hends, hes, hlockstep⟩ | ⟨es, h, ⟨xs, t, rest, hts, rfl⟩, enough, hstalls⟩
  · rw [Run.start, List.nil_append] at hes
    rw [← hes] at hlockstep
    exact .inl ⟨out, hends, hlockstep⟩
  · refine .inr ⟨xs, t, rest, h, hts, enough, fun patience hpatience => ?_⟩
    obtain ⟨hstalled, hexchanges⟩ := hstalls patience hpatience
    refine ⟨hstalled, hexchanges.trans ?_⟩
    rw [Run.start, List.nil_append, List.append_assoc, List.singleton_append]

end

end VectorReplay.Replay
