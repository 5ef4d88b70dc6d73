import VectorReplay.Proofs.Stage

/-!
How stages conduct themselves on any node: which calls they make, which reports they give, and how they
end. A call that fails is the last one, and its fault is that of the stage; any other fault is one of
the stage's own.
-/
namespace VectorReplay

namespace Exchange

/-- The call went well. -/
def Answered (x : Exchange) : Prop := ∃ a, x.reply = .ok a

/-- The call failed with this fault. -/
def Failed (x : Exchange) (f : Fault) : Prop := x.reply = .error f

theorem Answered.not_failed {x : Exchange} {f : Fault} (h : x.Answered) : ¬ x.Failed f := by
  obtain ⟨a, ha⟩ := h
  intro hf
  rw [Failed, ha] at hf
  cases hf

theorem Failed.unique {x : Exchange} {f g : Fault} (hf : x.Failed f) (hg : x.Failed g) : f = g := by
  rw [Failed] at hf hg
  rw [hf] at hg
  exact Except.error.inj hg

theorem answered_or_failed (x : Exchange) : x.Answered ∨ ∃ f, x.Failed f := by
  cases h : x.reply with
  | ok a => exact Or.inl ⟨a, h⟩
  | error f => exact Or.inr ⟨f, h⟩

end Exchange

namespace Stage

variable {σ α β : Type} {own : Fault → Prop}

/-- The end of a stage by its exchanges; `own` are the faults that no call accounts for. -/
inductive Settles (own : Fault → Prop) : List Exchange → Except Fault α → Prop
  | well {es : List Exchange} {a : α} : (∀ x ∈ es, x.Answered) → Settles own es (.ok a)
  | ownFault {es : List Exchange} {f : Fault} :
    (∀ x ∈ es, x.Answered) → own f → Settles own es (.error f)
  | failedCall {es : List Exchange} {x : Exchange} {f : Fault} :
    (∀ y ∈ es, y.Answered) → x.Failed f → Settles own (es ++ [x]) (.error f)

namespace Settles

variable {es before after : List Exchange} {x : Exchange} {r : Except Fault α} {f : Fault}

theorem answered {a : α} (h : Settles own es (.ok a)) : ∀ x ∈ es, x.Answered := by
  cases h with
  | well h => exact h

/-- No exchange stands behind one that failed, and its fault is the result. -/
theorem of_failed (h : Settles own es r) (hes : es = before ++ x :: after) (hx : x.Failed f) :
    after = [] ∧ r = .error f := by
  have hmem : x ∈ before ++ x :: after := by simp
  cases h with
  | well h => exact absurd hx (h x (hes ▸ hmem)).not_failed
  | ownFault h _ => exact absurd hx (h x (hes ▸ hmem)).not_failed
  | @failedCall init y g h hy =>
    rcases List.eq_nil_or_concat after with rfl | ⟨rest, z, rfl⟩
    · obtain ⟨-, hxy⟩ := List.append_inj' hes rfl
      obtain rfl : y = x := List.head_eq_of_cons_eq hxy
      exact ⟨rfl, by rw [hy.unique hx]⟩
    · -- then `x` is among the exchanges that went well
      have hinit : init = before ++ x :: rest := by
        rw [List.concat_eq_append, ← List.cons_append, ← List.append_assoc] at hes
        exact (List.append_inj' hes rfl).1
      exact absurd hx (h x (by simp [hinit])).not_failed

/-- What stands before an exchange went well. -/
theorem answered_before (h : Settles own es r) (hes : es = before ++ x :: after) :
    ∀ y ∈ before, y.Answered := by
  intro y hy
  rcases y.answered_or_failed with hy' | ⟨g, hg⟩
  · exact hy'
  · obtain ⟨front, rest, rfl⟩ := List.append_of_mem hy
    have hsplit : es = front ++ y :: (rest ++ x :: after) := by simp [hes]
    have hlast := (h.of_failed hsplit hg).1
    simp at hlast

theorem mono {own' : Fault → Prop} (h : Settles own es r) (hown : ∀ f, own f → own' f) :
    Settles own' es r := by
  cases h with
  | well h => exact .well h
  | ownFault h hf => exact .ownFault h (hown _ hf)
  | failedCall h hx => exact .failedCall h hx

theorem error_cast (h : Settles own es (.error f : Except Fault α)) :
    Settles own es (.error f : Except Fault β) := by
  cases h with
  | ownFault h hf => exact .ownFault h hf
  | failedCall h hx => exact .failedCall h hx

theorem after_answered {es' : List Exchange} (hes : ∀ x ∈ es, x.Answered) (h : Settles own es' r) :
    Settles own (es ++ es') r := by
  have happend {es'' : List Exchange} (h : ∀ x ∈ es'', x.Answered) :
      ∀ x ∈ es ++ es'', x.Answered := by
    intro x hx
    rcases List.mem_append.mp hx with hx | hx
    · exact hes x hx
    · exact h x hx
  cases h with
  | well h => exact .well (happend h)
  | ownFault h hf => exact .ownFault (happend h) hf
  | failedCall h hx =>
    rw [← List.append_assoc]
    exact .failedCall (happend h) hx

/-- A fault is one of the stage's own, or that of its last call. -/
theorem fault (h : Settles own es (.error f : Except Fault α)) :
    own f ∨ ∃ before x, es = before ++ [x] ∧ x.Failed f := by
  cases h with
  | ownFault _ hf => exact Or.inl hf
  | failedCall _ hx => exact Or.inr ⟨_, _, rfl, hx⟩

end Settles

/-! ### Rules of conduct -/

/-- The calls that a stage may make, the faults of its own and the levels of its reports. -/
structure Rules where
  calls : Call → Prop
  faults : Fault → Prop
  reports : Level → Prop

/-- Whatever the node answers, a stage keeps to the rules and stops at the first call that fails. -/
def Obeys (m : Stage σ α) (rules : Rules) : Prop :=
  ∀ run, ∃ es rs, (m run).2.exchanges = run.exchanges ++ es ∧ (m run).2.reports = run.reports ++ rs ∧
    (∀ x ∈ es, rules.calls x.call) ∧ (∀ x ∈ rs, rules.reports x.level) ∧
    Settles rules.faults es (m run).1

section
variable {rules : Rules} {m : Stage σ α} {f : α → Stage σ β}

theorem obeys_pure (a : α) : (pure a : Stage σ α).Obeys rules := by
  intro run
  exact ⟨[], [], by simp, by simp, by simp, by simp, .well (by simp)⟩

theorem obeys_throw {e : Fault} (h : rules.faults e) : (throw e : Stage σ α).Obeys rules := by
  intro run
  exact ⟨[], [], by simp, by simp, by simp, by simp, .ownFault (by simp) h⟩

theorem obeys_tell {reports : List Report} (h : ∀ x ∈ reports, rules.reports x.level) :
    (tell reports : Stage σ Unit).Obeys rules := by
  intro run
  exact ⟨[], reports, by simp, by simp, by simp, h, .well (by simp)⟩

theorem obeys_report {level : Level} {text : String} (h : rules.reports level) :
    (report level text : Stage σ Unit).Obeys rules :=
  obeys_tell (by simpa using h)

theorem obeys_perform (node : Node σ) {c : Call} (h : rules.calls c) :
    (perform node c).Obeys rules := by
  intro run
  obtain ⟨reply, hreply⟩ : ∃ reply, (node.answer c run.node).1 = reply := ⟨_, rfl⟩
  refine ⟨[⟨c, reply⟩], [], ?_, by simp [perform], by simpa using h, by simp, ?_⟩
  · simp [perform, hreply]
  · have hresult : (perform node c run).1 = reply := hreply
    rw [hresult]
    cases reply with
    | ok a =>
      have hanswered : ∀ x ∈ [(⟨c, .ok a⟩ : Exchange)], x.Answered := by simpa using ⟨a, rfl⟩
      exact .well hanswered
    | error e =>
      have hnone : ∀ x ∈ ([] : List Exchange), x.Answered := by simp
      exact .failedCall hnone rfl

theorem Obeys.bind (hm : m.Obeys rules) (hf : ∀ a, (f a).Obeys rules) :
    (m >>= f).Obeys rules := by
  intro run
  obtain ⟨es, rs, hes, hrs, hcalls, hreports, hsettles⟩ := hm run
  obtain ⟨r, run', hr⟩ : ∃ r run', m run = (r, run') := ⟨_, _, rfl⟩
  rw [hr] at hes hrs hsettles
  cases r with
  | error e =>
    rw [bind_of_error hr]
    exact ⟨es, rs, hes, hrs, hcalls, hreports, hsettles.error_cast⟩
  | ok a =>
    obtain ⟨es', rs', hes', hrs', hcalls', hreports', hsettles'⟩ := hf a run'
    rw [bind_of_ok hr]
    refine ⟨es ++ es', rs ++ rs', ?_, ?_, ?_, ?_, hsettles'.after_answered hsettles.answered⟩
    · rw [hes', hes, List.append_assoc]
    · rw [hrs', hrs, List.append_assoc]
    · exact List.forall_mem_append.mpr ⟨hcalls, hcalls'⟩
    · exact List.forall_mem_append.mpr ⟨hreports, hreports'⟩

theorem obeys_forM {γ : Type} {g : γ → Stage σ PUnit} (h : ∀ c, (g c).Obeys rules) (cs : List γ) :
    (cs.forM g).Obeys rules := by
  induction cs with
  | nil => exact obeys_pure _
  | cons c cs ih => exact (h c).bind fun _ => ih

theorem Obeys.mono {rules' : Rules} (h : m.Obeys rules) (hcalls : ∀ c, rules.calls c → rules'.calls c)
    (hfaults : ∀ e, rules.faults e → rules'.faults e)
    (hreports : ∀ l, rules.reports l → rules'.reports l) : m.Obeys rules' := by
  intro run
  obtain ⟨es, rs, hes, hrs, hc, hr, hsettles⟩ := h run
  exact ⟨es, rs, hes, hrs, fun x hx => hcalls _ (hc x hx), fun x hx => hreports _ (hr x hx),
    hsettles.mono hfaults⟩

/-- Rules on calls and faults speak of exchanges. -/
theorem Obeys.does (h : m.Obeys rules) :
    m.Does fun es r => (∀ x ∈ es, rules.calls x.call) ∧ Settles rules.faults es r := by
  intro run
  obtain ⟨es, rs, hes, -, hcalls, -, hsettles⟩ := h run
  exact ⟨es, hes, hcalls, hsettles⟩

/-- The reports of a whole run keep to the rules. -/
theorem Obeys.reports_start (h : m.Obeys rules) (s : σ) :
    ∀ x ∈ (m (Run.start s)).2.reports, rules.reports x.level := by
  obtain ⟨es, rs, -, hrs, -, hreports, -⟩ := h (Run.start s)
  rw [hrs, Run.start, List.nil_append]
  exact hreports

end

end Stage

end VectorReplay
