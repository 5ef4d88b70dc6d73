import VectorReplay.Proofs.Verify.Expectation

/-!
Verifying on a node whose answers depend on nothing but the query: the expectations on the accounts
are examined in their order up to the first that is not met, and the fault says why.
-/
namespace VectorReplay

open Stage

namespace Verify

variable {σ α : Type} {crypto : Crypto} {node : Node σ} {view : View}

/-! ### One expectation after the other -/

/-- One comparison. -/
def examine (crypto : Crypto) (node : Node σ) (e : Expectation) : Stage σ Unit := do
  let reply ← perform node e.query
  compare crypto e.address e.field e.field.text e.value (e.field.read e.address reply)

theorem account_eq (crypto : Crypto) (node : Node σ) (address : Address) (x : Account) :
    account crypto node address x = (x.expectations address).forM (examine crypto node) := by
  change _ = forM (x.expectations address) (examine crypto node)
  rw [Account.expectations, List.forM_cons, List.forM_cons, List.forM_cons, List.forM_map]
  simp only [account, examine, bind_assoc]
  rfl

/-- The way through expectations: it ends well if all of them are met, and otherwise at the first
that is not. -/
inductive Course (crypto : Crypto) (view : View) :
    List Expectation → List Exchange → Except Fault α → Prop
  | met {l : List Expectation} {es : List Exchange} {a : α} : (∀ e ∈ l, e.Met view) →
    es.map Exchange.call = l.map Expectation.query → Course crypto view l es (.ok a)
  | deviates {before after : List Expectation} {e : Expectation} {es : List Exchange} {f : Fault} :
    (∀ e' ∈ before, e'.Met view) → e.Deviates crypto view f →
    es.map Exchange.call = (before ++ [e]).map Expectation.query →
    Course crypto view (before ++ e :: after) es (.error f)

namespace Course

variable {l l' : List Expectation} {es es' : List Exchange} {r : Except Fault α} {f : Fault}

theorem nil (a : α) : Course crypto view [] [] (.ok a) :=
  .met (by simp) rfl

/-- The first expectation is not met. -/
theorem first {e : Expectation} (he : e.Deviates crypto view f)
    (hcalls : es.map Exchange.call = [e.query]) :
    Course crypto view [e] es (.error f : Except Fault α) := by
  have hnone : ∀ e' ∈ ([] : List Expectation), e'.Met view := by simp
  exact .deviates hnone he hcalls

/-- What is met goes before any further way. -/
theorem after (hmet : ∀ e ∈ l, e.Met view)
    (hcalls : es.map Exchange.call = l.map Expectation.query) (h : Course crypto view l' es' r) :
    Course crypto view (l ++ l') (es ++ es') r := by
  have happend {l'' : List Expectation} (h : ∀ e ∈ l'', e.Met view) : ∀ e ∈ l ++ l'', e.Met view :=
    List.forall_mem_append.mpr ⟨hmet, h⟩
  cases h with
  | met h hes => exact .met (happend h) (by rw [List.map_append, List.map_append, hcalls, hes])
  | @deviates before rest e _ f h he hes =>
    rw [← List.append_assoc]
    refine .deviates (happend h) he ?_
    rw [List.append_assoc, List.map_append, List.map_append, hcalls, hes]

/-- A way that stopped does not depend on what else was expected. -/
theorem stopped {β : Type} (h : Course crypto view l es (.error f : Except Fault α))
    (l' : List Expectation) : Course crypto view (l ++ l') es (.error f : Except Fault β) := by
  cases h with
  | deviates h he hes =>
    rw [List.append_assoc, List.cons_append]
    exact .deviates h he hes

theorem of_ok {a : α} (h : Course crypto view l es (.ok a)) :
    (∀ e ∈ l, e.Met view) ∧ es.map Exchange.call = l.map Expectation.query := by
  cases h with
  | met h hes => exact ⟨h, hes⟩

/-- A way that ended well does not depend on its result. -/
theorem replace {β : Type} {a : α} (h : Course crypto view l es (.ok a)) (b : β) :
    Course crypto view l es (.ok b) :=
  .met h.of_ok.1 h.of_ok.2

theorem bind {β : Type} {m : Stage σ α} {g : α → Stage σ β}
    (hm : m.Does (Course crypto view l)) (hg : ∀ a, (g a).Does (Course crypto view l')) :
    (m >>= g).Does (Course crypto view (l ++ l')) := by
  refine Does.bind hm (fun es f h => h.stopped l') fun es a h => (hg a).mono fun es' r h' => ?_
  exact h'.after h.of_ok.1 h.of_ok.2

/-- The calls of a way are queries of its expectations. -/
theorem exists_query (h : Course crypto view l es r) {x : Exchange} (hx : x ∈ es) :
    ∃ e ∈ l, x.call = e.query := by
  have hmem : x.call ∈ es.map Exchange.call := List.mem_map_of_mem hx
  cases h with
  | met h hes =>
    rw [hes] at hmem
    obtain ⟨e, he, hcall⟩ := List.mem_map.mp hmem
    exact ⟨e, he, hcall.symm⟩
  | deviates h he hes =>
    rw [hes] at hmem
    obtain ⟨e', he', hcall⟩ := List.mem_map.mp hmem
    exact ⟨e', by grind, hcall.symm⟩

end Course

section
variable (hnode : node.Shows view)
include hnode

/-- A query has the answer of the view. -/
theorem does_query (e : Expectation) :
    (perform node e.query).Does fun es r => es.map Exchange.call = [e.query] ∧ r = view e.query := by
  intro run
  exact ⟨_, rfl, rfl, hnode _ (StateField.isQuery_query e.address e.field) run.node⟩

theorem does_examine (e : Expectation) :
    (examine crypto node e).Does (Course crypto view [e]) := by
  refine Does.bind (does_query hnode e) ?_ ?_
  · rintro es f ⟨hes, hview⟩
    have hobserved : e.observed view = .error f := by rw [Expectation.observed, ← hview]; rfl
    exact .first (.failed hobserved) hes
  · rintro es reply ⟨hes, hview⟩
    have hobserved : e.observed view = .ok (e.field.read e.address reply) := by
      rw [Expectation.observed, ← hview]; rfl
    unfold compare
    split
    next heq =>
      apply does_pure
      rw [List.append_nil]
      refine .met ?_ hes
      intro e' he'
      rw [List.mem_singleton.mp he', Expectation.Met, hobserved, heq]
    next hne =>
      apply does_throw
      rw [List.append_nil]
      refine .first (.differs hobserved hne ?_) hes
      exact {
        address := rfl
        legible := Checksum.decode_text crypto.hash e.address
        field := rfl
        expected := StateField.denotes_text e.field e.value
        actual := StateField.denotes_text e.field _
        distinct := StateField.text_ne (Ne.symm hne) }

theorem does_forM (l : List Expectation) :
    (l.forM (examine crypto node)).Does (Course crypto view l) := by
  induction l with
  | nil => exact does_pure (.nil ())
  | cons e l ih => exact Course.bind (does_examine hnode e) fun _ => ih

/-- The accounts that are not skipped are examined in their order, and counted. -/
theorem does_accounts (skip : SkipList) (post : Accounts) :
    (accounts crypto node skip post).Does fun es r =>
      Course crypto view (post.expectations skip) es r ∧
        ∀ n, r = .ok n → n = post.countP fun x => !skip.contains x.1 := by
  induction post with
  | nil => exact does_pure ⟨.nil 0, fun n hn => by simpa using hn.symm⟩
  | cons entry post ih =>
    obtain ⟨address, x⟩ := entry
    unfold accounts
    by_cases hskip : skip.contains address = true
    · have hrest : Accounts.expectations skip ((address, x) :: post) =
          Accounts.expectations skip post := by
        simp [Accounts.expectations, hskip]
      rw [if_pos hskip, hrest]
      refine Does.bind (does_tell_eq _) ?_ ?_
      · rintro es f ⟨-, hf⟩
        cases hf
      · rintro es u ⟨rfl, -⟩
        refine ih.mono fun es r h => ⟨h.1, fun n hn => ?_⟩
        rw [h.2 n hn]
        simp [hskip]
    · have hrest : Accounts.expectations skip ((address, x) :: post) =
          x.expectations address ++ Accounts.expectations skip post := by
        simp [Accounts.expectations, hskip]
      rw [if_neg hskip, hrest, account_eq]
      refine Does.bind (does_forM hnode _) (fun es f h => ⟨h.stopped _, by simp⟩) fun es _ h => ?_
      refine Does.bind ih (fun es' f h' => ⟨h'.1.after h.of_ok.1 h.of_ok.2, by simp⟩) ?_
      rintro es' n ⟨hcourse, hcount⟩
      apply does_pure
      rw [List.append_nil]
      refine ⟨(hcourse.after h.of_ok.1 h.of_ok.2).replace _, ?_⟩
      intro m hm
      obtain rfl : n + 1 = m := Except.ok.inj hm
      rw [hcount n rfl]
      simp [hskip]

end

/-! ### Verdicts -/

/-- How a verification goes by its exchanges, its reports and its result. -/
structure Verdict (crypto : Crypto) (view : View) (skip : SkipList) (post : Accounts)
    (es : List Exchange) (reports : List Report) (r : Except Fault Unit) : Prop where
  /-- Nothing is asked but the fields of accounts that are not skipped. -/
  asks : ∀ x ∈ es, ∃ address field, skip.contains address = false ∧
    x.call = StateField.query address field
  /-- It goes well exactly if the view agrees with every account that is not skipped, -/
  passes : r = .ok () ↔
    ∀ entry ∈ post, skip.contains entry.1 = false → Agrees view entry.1 entry.2
  /-- and then it reports how many these are. -/
  counts : r = .ok () → ∃ earlier,
    reports = earlier ++ [passReport (post.countP fun entry => !skip.contains entry.1)]
  /-- Otherwise it stops at the first expectation that is not met. -/
  stops : ∀ f, r = .error f → ∃ before e after,
    Accounts.expectations skip post = before ++ e :: after ∧ (∀ e' ∈ before, e'.Met view) ∧
      e.Deviates crypto view f ∧ es.map Exchange.call = (before ++ [e]).map Expectation.query

namespace Course

variable {skip : SkipList} {post : Accounts} {es : List Exchange} {r : Except Fault α}

theorem asks (h : Course crypto view (post.expectations skip) es r) : ∀ x ∈ es,
    ∃ address field, skip.contains address = false ∧ x.call = StateField.query address field := by
  intro x hx
  obtain ⟨e, he, hcall⟩ := h.exists_query hx
  exact ⟨e.address, e.field, skip_of_mem_expectations he, hcall⟩

theorem verdict_ok {a : α} (h : Course crypto view (post.expectations skip) es (.ok a))
    (earlier : List Report) : Verdict crypto view skip post es
      (earlier ++ [passReport (post.countP fun entry => !skip.contains entry.1)]) (.ok ()) where
  asks := h.asks
  passes := iff_of_true rfl ((forall_expectations_iff view skip post).mp h.of_ok.1)
  counts := fun _ => ⟨earlier, rfl⟩
  stops := by simp

theorem verdict_error {f : Fault} (reports : List Report)
    (h : Course crypto view (post.expectations skip) es (.error f : Except Fault α)) :
    Verdict crypto view skip post es reports (.error f) := by
  have hasks := h.asks
  generalize hl : post.expectations skip = l at h
  cases h with
  | @deviates before after e _ _ hmet he hes =>
    refine ⟨hasks, ?_, by simp, ?_⟩
    · rw [← forall_expectations_iff, hl]
      refine iff_of_false (by simp) fun h => he.not_met (h e (by simp))
    · rintro f' hf'
      obtain rfl : f = f' := Except.error.inj hf'
      exact ⟨before, e, after, hl, hmet, he, hes⟩

end Course

theorem all_verdict (crypto : Crypto) (node : Node σ) (view : View) (hnode : node.Shows view)
    (skip : SkipList) (post : Accounts) (s : σ) :
    Verdict crypto view skip post (all crypto node skip post (Run.start s)).2.exchanges
      (all crypto node skip post (Run.start s)).2.reports
      (all crypto node skip post (Run.start s)).1 := by
  have hdoes : (accounts crypto node skip post).Does _ := does_accounts hnode skip post
  obtain ⟨hcourse, hcount⟩ := hdoes.start s
  obtain ⟨r, run, hrun⟩ : ∃ r run,
    accounts crypto node skip post (Run.start s) = (r, run) := ⟨_, _, rfl⟩
  rw [hrun] at hcourse hcount
  cases r with
  | ok n =>
    have hall : all crypto node skip post (Run.start s) =
        (.ok (), { run with reports := run.reports ++ [passReport n] }) := bind_of_ok hrun
    rw [hall, hcount n rfl]
    exact hcourse.verdict_ok run.reports
  | error f =>
    have hall : all crypto node skip post (Run.start s) = (.error f, run) := bind_of_error hrun
    rw [hall]
    exact hcourse.verdict_error run.reports

/-! A chain without accounts whose storage cannot be read, and two accounts of which the first is
skipped and the second has a slot. -/
namespace Barren

def answers : View
  | .balance _ | .transactionCount _ => .ok (0 : Word)
  | .code _ => .ok ([] : Bytes)
  | c => .error (.failed (.node c.method "out of reach"))

def chain : Node Unit where
  answer c s := (answers c, s)

def skipped : Address := FixedBytes.ofNat 20 1

def kept : Address := FixedBytes.ofNat 20 2

def post : Accounts :=
  [(skipped, { code := [], balance := 5, nonce := 0, storage := .empty }),
    (kept, { code := [], balance := 0, nonce := 0, storage := Storage.empty.insert 7 1 })]

end Barren

open Barren in
theorem all_verdict_barren : chain.Shows answers ∧
    Verdict .ethereum answers ⟨[skipped]⟩ post
      (all .ethereum chain ⟨[skipped]⟩ post (Run.start ())).2.exchanges
      (all .ethereum chain ⟨[skipped]⟩ post (Run.start ())).2.reports
      (all .ethereum chain ⟨[skipped]⟩ post (Run.start ())).1 := by
  have shows : chain.Shows answers := fun _ _ _ => rfl
  exact ⟨shows, all_verdict .ethereum chain answers shows ⟨[skipped]⟩ post ()⟩

end Verify

end VectorReplay
