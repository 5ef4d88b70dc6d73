import Mathlib.Order.Basic

/-!
Computations that may fail. Those that keep their state when they fail follow a rule that has no
result where they fail.
-/
namespace VectorReplay

theorem bind_eq_ok {ε α β : Type} {x : Except ε α} {f : α → Except ε β} {b : β} :
    (x >>= f) = .ok b ↔ ∃ a, x = .ok a ∧ f a = .ok b := by
  cases x with
  | error e => simp [bind, Except.bind]
  | ok a => simp [bind, Except.bind]

theorem bind_eq_error {ε α β : Type} {x : Except ε α} {f : α → Except ε β} {e : ε} :
    (x >>= f) = .error e ↔ x = .error e ∨ ∃ a, x = .ok a ∧ f a = .error e := by
  cases x with
  | error e' => simp [bind, Except.bind]
  | ok a => simp [bind, Except.bind]

theorem map_eq_ok {ε α β : Type} {x : Except ε α} {f : α → β} {b : β} :
    f <$> x = .ok b ↔ ∃ a, x = .ok a ∧ f a = b := by
  cases x <;> simp [Functor.map, Except.map]

theorem ok_injective {ε α : Type} : Function.Injective (Except.ok : α → Except ε α) :=
  fun _ _ => Except.ok.inj

theorem eq_ok_of_toOption {ε α : Type} {x : Except ε α} {a : α} (h : x.toOption = some a) :
    x = .ok a := by
  cases x with
  | error e => cases h
  | ok b => rw [Option.some.inj h]

variable {ε σ α β γ δ : Type} {m : ExceptT ε (StateM σ) α} {f : α → ExceptT ε (StateM σ) β}
  {s s' : σ}

theorem bind_apply (m : ExceptT ε (StateM σ) α) (f : α → ExceptT ε (StateM σ) β) (s : σ) :
    (m >>= f) s = match m s with
      | (.ok a, s') => f a s'
      | (.error e, s') => (.error e, s') := by
  change (match (m s).1 with
    | .ok a => f a
    | .error e => pure (.error e) : StateM σ (Except ε β)) (m s).2 = _
  rcases m s with ⟨_ | _, s'⟩ <;> rfl

theorem bind_of_ok {a : α} (h : m s = (.ok a, s')) : (m >>= f) s = f a s' := by
  rw [bind_apply, h]

theorem bind_of_error {e : ε} (h : m s = (.error e, s')) : (m >>= f) s = (.error e, s') := by
  rw [bind_apply, h]

@[simp] theorem pure_apply (a : α) (s : σ) : (pure a : ExceptT ε (StateM σ) α) s = (.ok a, s) := rfl

@[simp] theorem throw_apply (e : ε) (s : σ) :
    (throw e : ExceptT ε (StateM σ) α) s = (.error e, s) := rfl

theorem get_apply (s : σ) : (get : ExceptT ε (StateM σ) σ) s = (.ok s, s) := rfl

theorem modify_apply (g : σ → σ) (s : σ) :
    (modify g : ExceptT ε (StateM σ) PUnit) s = (.ok ⟨⟩, g s) := rfl

theorem tryCatch_of_ok {g : ε → ExceptT ε (StateM σ) α} {a : α} (h : m s = (.ok a, s')) :
    (tryCatch m g : ExceptT ε (StateM σ) α) s = (.ok a, s') := by
  have hcatch : (tryCatch m g : ExceptT ε (StateM σ) α) = ExceptT.tryCatch m g := rfl
  rw [hcatch]
  simp only [ExceptT.tryCatch, ExceptT.mk, bind, StateT.bind, h]
  rfl

theorem tryCatch_of_error {g : ε → ExceptT ε (StateM σ) α} {e : ε} (h : m s = (.error e, s')) :
    (tryCatch m g : ExceptT ε (StateM σ) α) s = g e s' := by
  have hcatch : (tryCatch m g : ExceptT ε (StateM σ) α) = ExceptT.tryCatch m g := rfl
  rw [hcatch]
  simp only [ExceptT.tryCatch, ExceptT.mk, bind, StateT.bind, h]

/-- Where the rule has a result, the computation succeeds in relation to it; elsewhere it fails. -/
def Follows (m : ExceptT ε (StateM σ) α) (s : σ) (rule : Option γ) (R : γ → α → σ → Prop) : Prop :=
  match rule with
  | some x => ∃ a s', m s = (.ok a, s') ∧ R x a s'
  | none => ∃ e s', m s = (.error e, s')

theorem follows_of_ok {a : α} {x : γ} {R : γ → α → σ → Prop} (h : m s = (.ok a, s'))
    (hr : R x a s') : Follows m s (some x) R :=
  ⟨a, s', h, hr⟩

theorem follows_of_error {e : ε} {R : γ → α → σ → Prop} (h : m s = (.error e, s')) :
    Follows m s none R :=
  ⟨e, s', h⟩

theorem follows_step {a : α} {rule : Option γ} {R : γ → β → σ → Prop} (h : m s = (.ok a, s')) :
    Follows (m >>= f) s rule R ↔ Follows (f a) s' rule R := by
  unfold Follows
  rw [bind_of_ok h]

theorem follows_seq {x : γ} {rule : Option δ} {R : γ → α → σ → Prop} {Q : δ → β → σ → Prop}
    (hm : Follows m s (some x) R) (hf : ∀ a s', R x a s' → Follows (f a) s' rule Q) :
    Follows (m >>= f) s rule Q := by
  obtain ⟨a, s', ha, hr⟩ := hm
  exact (follows_step ha).mpr (hf a s' hr)

theorem Follows.mono {rule : Option γ} {R Q : γ → α → σ → Prop} (h : Follows m s rule R)
    (hrq : ∀ x a s', R x a s' → Q x a s') : Follows m s rule Q := by
  cases rule with
  | none => exact h
  | some x =>
    obtain ⟨a, s', hm, hr⟩ := h
    exact ⟨a, s', hm, hrq x a s' hr⟩

theorem Follows.bind {rule : Option γ} {next : γ → Option δ} {R : γ → α → σ → Prop}
    {Q : δ → β → σ → Prop} (hm : Follows m s rule R)
    (hf : ∀ x a s', R x a s' → Follows (f a) s' (next x) Q) :
    Follows (m >>= f) s (rule.bind next) Q := by
  cases rule with
  | none =>
    obtain ⟨e, s', he⟩ := hm
    exact ⟨e, s', bind_of_error he⟩
  | some x =>
    obtain ⟨a, s', ha, hr⟩ := hm
    have h := hf x a s' hr
    unfold Follows at h ⊢
    rwa [bind_of_ok ha]

/-- What comes after does not fail and adds nothing to the rule. -/
theorem Follows.andThen {rule : Option γ} {R : γ → α → σ → Prop} {Q : γ → β → σ → Prop}
    (hm : Follows m s rule R) (hf : ∀ x a s', R x a s' → Follows (f a) s' (some x) Q) :
    Follows (m >>= f) s rule Q := by
  rw [← Option.bind_fun_some rule]
  exact hm.bind hf

/-- Where a computation succeeds, the rule has a result. -/
theorem Follows.of_ok {rule : Option γ} {R : γ → α → σ → Prop} {a : α} (h : Follows m s rule R)
    (hm : m s = (.ok a, s')) : ∃ x, rule = some x ∧ R x a s' := by
  cases rule with
  | none =>
    obtain ⟨e, t, he⟩ := h
    rw [hm] at he
    cases he
  | some x =>
    obtain ⟨b, t, hb, hr⟩ := h
    rw [hm] at hb
    cases hb
    exact ⟨x, rfl, hr⟩

/-- A computation that follows a rule succeeds exactly where the rule has a result. -/
theorem Follows.succeeds_iff {rule : Option γ} {R : γ → α → σ → Prop} (h : Follows m s rule R) :
    (∃ a s', m s = (.ok a, s')) ↔ ∃ x, rule = some x := by
  constructor
  · rintro ⟨a, t, ha⟩
    obtain ⟨x, hx, -⟩ := h.of_ok ha
    exact ⟨x, hx⟩
  · rintro ⟨x, rfl⟩
    obtain ⟨a, t, ha, -⟩ := h
    exact ⟨a, t, ha⟩

end VectorReplay
