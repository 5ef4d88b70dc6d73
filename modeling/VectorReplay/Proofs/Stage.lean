import VectorReplay.Node
import VectorReplay.Proofs.Computation

/-!
Stages of a run from the outside: how they go on after one another, what they add to the exchanges
of a run, and how a stage that polls ends once its patience suffices.
-/
namespace VectorReplay

namespace Stage

variable {σ α β : Type}

theorem perform_of_answer {node : Node σ} {c : Call} {reply : Except Fault c.Reply} {s : σ}
    {run : Run σ} (h : node.answer c run.node = (reply, s)) : perform node c run =
      (reply, { run with node := s, exchanges := run.exchanges ++ [⟨c, reply⟩] }) := by
  rw [perform, h]

/-! ### Reports -/

/-- Reports in a row. -/
def tell (reports : List Report) : Stage σ Unit := fun run =>
  (.ok (), { run with reports := run.reports ++ reports })

@[simp] theorem tell_apply (reports : List Report) (run : Run σ) :
    (tell reports : Stage σ Unit) run = (.ok (), { run with reports := run.reports ++ reports }) :=
  rfl

theorem report_eq_tell (level : Level) (text : String) :
    (report level text : Stage σ Unit) = tell [⟨level, text⟩] := rfl

theorem tell_nil : (tell [] : Stage σ Unit) = pure () := by
  funext run
  simp

theorem tell_append (as bs : List Report) (m : Stage σ α) :
    (tell as >>= fun _ => tell bs >>= fun _ => m) = tell (as ++ bs) >>= fun _ => m := by
  funext run
  rw [bind_of_ok (tell_apply as run), bind_of_ok (tell_apply bs _), bind_of_ok (tell_apply _ run),
    List.append_assoc]

theorem tell_if (c : Prop) [Decidable c] (reports : List Report) (m : Stage σ α) :
    (tell (if c then reports else []) >>= fun _ => m) =
      if c then tell reports >>= fun _ => m else m := by
  split
  · rfl
  · rw [tell_nil, pure_bind]

/-! ### Exchanges -/

/-- What a stage does: the exchanges that it adds to any run, and how it ends. -/
def Does (m : Stage σ α) (P : List Exchange → Except Fault α → Prop) : Prop :=
  ∀ run, ∃ es, (m run).2.exchanges = run.exchanges ++ es ∧ P es (m run).1

theorem Does.mono {m : Stage σ α} {P Q : List Exchange → Except Fault α → Prop} (h : m.Does P)
    (hpq : ∀ es r, P es r → Q es r) : m.Does Q := by
  intro run
  obtain ⟨es, hes, hp⟩ := h run
  exact ⟨es, hes, hpq es _ hp⟩

theorem does_pure {P : List Exchange → Except Fault α → Prop} {a : α} (h : P [] (.ok a)) :
    (pure a : Stage σ α).Does P := by
  intro run
  exact ⟨[], by simp, h⟩

theorem does_throw {P : List Exchange → Except Fault α → Prop} {e : Fault} (h : P [] (.error e)) :
    (throw e : Stage σ α).Does P := by
  intro run
  exact ⟨[], by simp, h⟩

theorem does_tell {reports : List Report} {P : List Exchange → Except Fault Unit → Prop}
    (h : P [] (.ok ())) : (tell reports : Stage σ Unit).Does P := by
  intro run
  exact ⟨[], by simp, h⟩

theorem does_perform {node : Node σ} {c : Call} {P : List Exchange → Except Fault c.Reply → Prop}
    (h : ∀ reply, P [⟨c, reply⟩] reply) : (perform node c).Does P := by
  intro run
  exact ⟨_, rfl, h _⟩

theorem does_perform_eq (node : Node σ) (c : Call) :
    (perform node c).Does fun es r => es = [⟨c, r⟩] :=
  does_perform fun _ => rfl

theorem does_tell_eq (reports : List Report) :
    (tell reports : Stage σ Unit).Does fun es r => es = [] ∧ r = .ok () :=
  does_tell ⟨rfl, rfl⟩

theorem Does.bind {m : Stage σ α} {f : α → Stage σ β} {P : List Exchange → Except Fault α → Prop}
    {Q : List Exchange → Except Fault β → Prop} (hm : m.Does P)
    (herror : ∀ es e, P es (.error e) → Q es (.error e))
    (hok : ∀ es a, P es (.ok a) → (f a).Does fun es' r => Q (es ++ es') r) :
    (m >>= f).Does Q := by
  intro run
  obtain ⟨es, hes, hp⟩ := hm run
  obtain ⟨r, run', hr⟩ : ∃ r run', m run = (r, run') := ⟨_, _, rfl⟩
  rw [hr] at hes hp
  cases r with
  | error e =>
    rw [bind_of_error hr]
    exact ⟨es, hes, herror es e hp⟩
  | ok a =>
    obtain ⟨es', hes', hq⟩ := hok es a hp run'
    rw [bind_of_ok hr]
    exact ⟨es ++ es', by rw [hes', hes, List.append_assoc], hq⟩

theorem Does.and {m : Stage σ α} {P Q : List Exchange → Except Fault α → Prop} (hp : m.Does P)
    (hq : m.Does Q) : m.Does fun es r => P es r ∧ Q es r := by
  intro run
  obtain ⟨es, hes, hP⟩ := hp run
  obtain ⟨es', hes', hQ⟩ := hq run
  have heq : es' = es := by
    rw [hes] at hes'
    exact (List.append_cancel_left hes').symm
  rw [heq] at hQ
  exact ⟨es, hes, hP, hQ⟩

/-- What a whole run consists of is what its stage did. -/
theorem Does.start {m : Stage σ α} {P : List Exchange → Except Fault α → Prop} (h : m.Does P)
    (s : σ) : P (m (Run.start s)).2.exchanges (m (Run.start s)).1 := by
  obtain ⟨es, hes, hp⟩ := h (Run.start s)
  have heq : (m (Run.start s)).2.exchanges = es := by rw [hes, Run.start, List.nil_append]
  rw [heq]
  exact hp

/-! ### Invariants -/

/-- What holds of the node before a stage holds of it afterwards, however the stage ends. -/
def Preserves (m : Stage σ α) (I : σ → Prop) : Prop :=
  ∀ run, I run.node → I (m run).2.node

theorem preserves_pure {I : σ → Prop} (a : α) : (pure a : Stage σ α).Preserves I :=
  fun _ h => h

theorem preserves_tell {I : σ → Prop} (reports : List Report) :
    (tell reports : Stage σ Unit).Preserves I :=
  fun _ h => h

theorem preserves_perform {I : σ → Prop} {node : Node σ} {c : Call}
    (h : ∀ s, I s → I (node.answer c s).2) : (perform node c).Preserves I :=
  fun run hrun => h run.node hrun

theorem Preserves.bind {I : σ → Prop} {m : Stage σ α} {f : α → Stage σ β} (hm : m.Preserves I)
    (hf : ∀ a, (f a).Preserves I) : (m >>= f).Preserves I := by
  intro run hrun
  have h := hm run hrun
  obtain ⟨r, run', hr⟩ : ∃ r run', m run = (r, run') := ⟨_, _, rfl⟩
  rw [hr] at h
  cases r with
  | error e => rwa [bind_of_error hr]
  | ok a =>
    rw [bind_of_ok hr]
    exact hf a run' h

theorem preserves_forM {I : σ → Prop} {γ : Type} {f : γ → Stage σ PUnit}
    (h : ∀ c, (f c).Preserves I) (cs : List γ) : (cs.forM f).Preserves I := by
  induction cs with
  | nil => exact preserves_pure _
  | cons c cs ih => exact (h c).bind fun _ => ih

/-! ### Plans -/

/-- What a stage lets be seen of its exchanges goes along a plan, to the end of it unless the stage
fails. -/
def Yields {γ : Type} (m : Stage σ α) (view : Exchange → Option γ) (plan : List γ) : Prop :=
  m.Does fun es r => es.filterMap view <+: plan ∧ ∀ a, r = .ok a → es.filterMap view = plan

section
variable {γ : Type} {view : Exchange → Option γ}

theorem yields_pure (a : α) : (pure a : Stage σ α).Yields view [] :=
  does_pure ⟨List.prefix_refl _, fun _ _ => rfl⟩

theorem yields_throw (e : Fault) : (throw e : Stage σ α).Yields view [] :=
  does_throw ⟨List.prefix_refl _, fun _ _ => rfl⟩

theorem yields_tell (reports : List Report) : (tell reports : Stage σ Unit).Yields view [] :=
  does_tell ⟨List.prefix_refl _, fun _ _ => rfl⟩

theorem yields_perform (node : Node σ) (seen : Option γ) {c : Call}
    (h : ∀ reply, view ⟨c, reply⟩ = seen) : (perform node c).Yields view seen.toList := by
  refine does_perform fun reply => ?_
  have hview : [(⟨c, reply⟩ : Exchange)].filterMap view = seen.toList := by
    cases seen <;> simp [h reply]
  rw [hview]
  exact ⟨List.prefix_refl _, fun _ _ => rfl⟩

theorem Yields.bind {m : Stage σ α} {f : α → Stage σ β} {as bs : List γ} (hm : m.Yields view as)
    (hf : ∀ a, (f a).Yields view bs) : (m >>= f).Yields view (as ++ bs) := by
  refine Does.bind hm (fun es e h => ?_) fun es a h => (hf a).mono fun es' r h' => ?_
  · exact ⟨h.1.trans (List.prefix_append as bs), fun _ he => nomatch he⟩
  · rw [List.filterMap_append, h.2 a rfl]
    exact ⟨(List.prefix_append_right_inj as).mpr h'.1, fun b hb => by rw [h'.2 b hb]⟩

/-- What goes on without being seen does not count. -/
theorem Yields.bind_quiet {m : Stage σ α} {f : α → Stage σ β} {as : List γ}
    (hm : m.Yields view as) (hf : ∀ a, (f a).Yields view []) : (m >>= f).Yields view as := by
  have h := hm.bind hf
  rwa [List.append_nil] at h

theorem yields_forM {δ : Type} {f : δ → Stage σ PUnit} {plan : δ → List γ}
    (h : ∀ d, (f d).Yields view (plan d)) (ds : List δ) :
    (ds.forM f).Yields view (ds.flatMap plan) := by
  induction ds with
  | nil => exact yields_pure _
  | cons d ds ih =>
    rw [List.flatMap_cons]
    exact (h d).bind fun _ => ih

theorem yields_forM_quiet {δ : Type} {f : δ → Stage σ PUnit} (h : ∀ d, (f d).Yields view [])
    (ds : List δ) : (ds.forM f).Yields view [] := by
  have hplan := yields_forM h ds
  have hnil : ds.flatMap (fun _ => ([] : List γ)) = [] := by simp
  rw [hnil] at hplan
  exact hplan

end

/-! ### Patience -/

/-- A stage that polls ends so once its patience suffices. -/
def Ends (m : (patience : Nat) → Stage σ α) (run : Run σ) (out : Except Fault α × Run σ) : Prop :=
  ∃ enough, ∀ patience, enough ≤ patience → m patience run = out

/-- More patience changes nothing in a run that did not stall. -/
def Patient (m : (patience : Nat) → Stage σ α) : Prop :=
  ∀ k n, k ≤ n → ∀ run, (m k run).1 ≠ .error .stalled → m n run = m k run

theorem patient_const (m : Stage σ α) : Patient fun _ => m :=
  fun _ _ _ _ _ => rfl

theorem Patient.bind {m : Nat → Stage σ α} {f : Nat → α → Stage σ β} (hm : Patient m)
    (hf : ∀ a, Patient fun n => f n a) : Patient fun n => m n >>= f n := by
  intro k n hkn run hstall
  dsimp only at hstall ⊢
  obtain ⟨r, run', hr⟩ : ∃ r run', m k run = (r, run') := ⟨_, _, rfl⟩
  cases r with
  | error e =>
    rw [bind_of_error hr] at hstall ⊢
    have hne : (m k run).1 ≠ .error .stalled := by
      rw [hr]
      rintro h
      cases h
      exact hstall rfl
    exact bind_of_error ((hm k n hkn run hne).trans hr)
  | ok a =>
    rw [bind_of_ok hr] at hstall ⊢
    have heq := hm k n hkn run (by simp [hr])
    rw [bind_of_ok (heq.trans hr)]
    exact hf a k n hkn run' hstall

theorem Patient.ends {m : Nat → Stage σ α} (h : Patient m) {k : Nat} {run : Run σ}
    (hstall : (m k run).1 ≠ .error .stalled) : Ends m run (m k run) :=
  ⟨k, fun n hn => h k n hn run hstall⟩

end Stage

end VectorReplay
