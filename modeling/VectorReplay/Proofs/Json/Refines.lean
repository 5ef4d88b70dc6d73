import Mathlib.Data.List.Forall2
import VectorReplay.Proofs.Json.Ensures

/-!
Readers that read the same texts: what the first reads, the second reads up to the same place, and
the two results are related. Objects, entries and records are so related if their parts are.
-/
namespace VectorReplay.Json

variable {α β σ τ δ δ' : Type}

/-- Where the first reader has a result, the second has one in relation to it. -/
def Reader.Refines (read : Reader α) (read' : Reader β) (R : α → β → Prop) : Prop :=
  ∀ s a r, read s = .ok (a, r) → ∃ b, read' s = .ok (b, r) ∧ R a b

namespace Reader

theorem refines_refl (read : Reader α) : Refines read read Eq :=
  fun _ a _ hread => ⟨a, hread, rfl⟩

theorem Refines.dispatch {choose : Char → Reader α} {choose' : Char → Reader β} {R : α → β → Prop}
    (h : ∀ c, Refines (choose c) (choose' c) R) :
    Refines (dispatch choose) (dispatch choose') R := by
  intro s a r hread
  unfold Reader.dispatch at hread ⊢
  cases hs : skipSpace s with
  | nil =>
    rw [hs] at hread
    cases hread
  | cons c t =>
    rw [hs] at hread
    exact h c _ _ _ hread

theorem Refines.afterColon {read : Reader α} {read' : Reader β} {R : α → β → Prop}
    (h : Refines read read' R) : Refines (afterColon read) (afterColon read') R := by
  intro s a r hread
  simp only [Reader.afterColon, bind_eq_ok] at hread ⊢
  obtain ⟨t, hcolon, hread⟩ := hread
  obtain ⟨b, hb, hr⟩ := h _ _ _ hread
  exact ⟨b, ⟨t, hcolon, hb⟩, hr⟩

section Members
variable {step : σ → String → Reader σ} {step' : τ → String → Reader τ} {R : σ → τ → Prop}
  (hstep : ∀ acc acc' key, R acc acc' → Refines (step acc key) (step' acc' key) R)
include hstep

/-- Steps that keep two objects in relation, member by member, keep them so to the end. -/
theorem refines_members (fuel : Nat) {first : Bool} {acc : σ} {acc' : τ} (h : R acc acc') :
    Refines (members step fuel first acc) (members step' fuel first acc') R := by
  induction fuel generalizing first acc acc' with
  | zero =>
    intro s a r hread
    cases hread
  | succ fuel ih =>
    intro s a r hread
    simp only [members, bind_eq_ok] at hread ⊢
    obtain ⟨⟨more, t⟩, hnext, hread⟩ := hread
    cases more with
    | false =>
      cases hread
      exact ⟨acc', ⟨_, hnext, rfl⟩, h⟩
    | true =>
      simp only [if_true, bind_eq_ok] at hread
      obtain ⟨⟨key, u⟩, hkey, ⟨taken, v⟩, htaken, hread⟩ := hread
      obtain ⟨taken', htaken', hrel⟩ := hstep _ _ _ h _ _ _ htaken
      obtain ⟨b, hb, hr⟩ := ih hrel _ _ _ hread
      refine ⟨b, ⟨_, hnext, ?_⟩, hr⟩
      simp only [if_true, bind_eq_ok]
      exact ⟨_, hkey, _, htaken', hb⟩

theorem refines_objectBody {blank : σ} {blank' : τ} (h : R blank blank') :
    Refines (objectBody step blank) (objectBody step' blank') R := by
  intro s a r hread
  simp only [objectBody, bind_eq_ok] at hread ⊢
  obtain ⟨⟨acc, t⟩, hmembers, u, hend, hread⟩ := hread
  cases hread
  obtain ⟨acc', hmembers', hr⟩ := refines_members hstep _ h _ _ _ hmembers
  exact ⟨acc', ⟨_, hmembers', _, hend, rfl⟩, hr⟩

end Members

end Reader

/-! ### Decoders -/

namespace Decoder

/-- The same entries, taken in by two rules. -/
theorem refines_entries {κ : Type} {expected : String} {key : String → Except Error κ}
    {value : Decoder β} {blank : σ} {blank' : τ} {add : σ → κ → β → Except Error σ}
    {add' : τ → κ → β → Except Error τ} {R : σ → τ → Prop} (hblank : R blank blank')
    (hadd : ∀ acc acc' k b taken, R acc acc' → add acc k b = .ok taken →
      ∃ taken', add' acc' k b = .ok taken' ∧ R taken taken') :
    (entries expected key value blank add).read.Refines
      (entries expected key value blank' add').read R := by
  have hstep (acc : σ) (acc' : τ) (name : String) (h : R acc acc') :
      Reader.Refines (entries.step key value add acc name)
        (entries.step key value add' acc' name) R := by
    intro s taken r hread
    simp only [entries.step, bind_eq_ok] at hread ⊢
    obtain ⟨k, hk, ⟨b, t⟩, hb, taken, htaken, hread⟩ := hread
    cases hread
    obtain ⟨taken', htaken', hr⟩ := hadd _ _ _ _ _ h htaken
    exact ⟨taken', ⟨k, hk, _, hb, _, htaken', rfl⟩, hr⟩
  simp only [entries]
  refine Reader.Refines.dispatch fun c s acc r hread => ?_
  split at hread
  · rename_i hopen
    simp only [if_pos hopen]
    exact Reader.refines_objectBody hstep hblank _ _ _ hread
  · cases hread

theorem refines_andThen {d : Decoder α} {d' : Decoder β} {f : α → Except Error σ}
    {f' : β → Except Error τ} {R : α → β → Prop} {Q : σ → τ → Prop}
    (h : d.read.Refines d'.read R)
    (hf : ∀ a b x, R a b → f a = .ok x → ∃ y, f' b = .ok y ∧ Q x y) :
    (d.andThen f).read.Refines (d'.andThen f').read Q := by
  intro s x r hread
  simp only [andThen, bind_eq_ok] at hread ⊢
  obtain ⟨⟨a, t⟩, ha, y, hy, hread⟩ := hread
  cases hread
  obtain ⟨b, hb, hr⟩ := h _ _ _ ha
  obtain ⟨z, hz, hq⟩ := hf _ _ _ hr hy
  exact ⟨z, ⟨_, hb, _, hz, rfl⟩, hq⟩

/-- A check that the second decoder goes without. -/
theorem refines_of_andThen {d : Decoder α} {d' : Decoder β} {f : α → Except Error σ}
    {R : α → β → Prop} {Q : σ → β → Prop} (h : d.read.Refines d'.read R)
    (hf : ∀ a b x, R a b → f a = .ok x → Q x b) : (d.andThen f).read.Refines d'.read Q := by
  intro s x r hread
  simp only [andThen, bind_eq_ok] at hread
  obtain ⟨⟨a, t⟩, ha, y, hy, hread⟩ := hread
  cases hread
  obtain ⟨b, hb, hr⟩ := h _ _ _ ha
  exact ⟨b, hb, hf _ _ _ hr hy⟩

end Decoder

/-! ### Records -/

/-- The same member in two kinds of drafts: known to both or to neither, and what it reads keeps the
drafts in relation. -/
structure Field.Refines (D : δ → δ' → Prop) (f : Field δ) (f' : Field δ') : Prop where
  name : f.name = f'.name
  optional : f.optional = f'.optional
  known : ∀ draft draft', D draft draft' → f.known draft = f'.known draft'
  reads : f.decoder.read.Refines f'.decoder.read fun set set' =>
    ∀ draft draft', D draft draft' → D (set draft) (set' draft')

theorem Field.refines_of {name : String} {optional : Bool} {get : δ → Option α}
    {get' : δ' → Option β} {set : α → δ → δ} {set' : β → δ' → δ'} {d : Decoder α} {d' : Decoder β}
    {R : α → β → Prop} {D : δ → δ' → Prop} (h : d.read.Refines d'.read R)
    (hget : ∀ draft draft', D draft draft' → (get draft).isSome = (get' draft').isSome)
    (hset : ∀ a b draft draft', R a b → D draft draft' → D (set a draft) (set' b draft')) :
    (Field.of name optional get set d).Refines D (Field.of name optional get' set' d') where
  name := rfl
  optional := rfl
  known := hget
  reads := by
    refine Decoder.refines_andThen h ?_
    rintro a b _ hr ⟨⟩
    exact ⟨_, rfl, fun draft draft' => hset a b draft draft' hr⟩

/-- A field that both drafts keep alike. -/
theorem Field.refines_same {name : String} {optional : Bool} {get : δ → Option α}
    {get' : δ' → Option α} {set : α → δ → δ} {set' : α → δ' → δ'} {d : Decoder α}
    {D : δ → δ' → Prop} (hget : ∀ draft draft', D draft draft' → get draft = get' draft')
    (hset : ∀ a draft draft', D draft draft' → D (set a draft) (set' a draft')) :
    (Field.of name optional get set d).Refines D (Field.of name optional get' set' d) := by
  refine Field.refines_of (Reader.refines_refl _) ?_ ?_
  · exact fun draft draft' h => congrArg Option.isSome (hget draft draft' h)
  · rintro a _ draft draft' rfl h
    exact hset a draft draft' h

namespace Record

variable {r : Record δ α} {r' : Record δ' β} {D : δ → δ' → Prop}

/-- A name that the first record knows is known to the second. -/
theorem field?_refines (h : List.Forall₂ (Field.Refines D) r.fields r'.fields) (name : String) :
    Option.Rel (Field.Refines D) (r.field? name) (r'.field? name) := by
  unfold field?
  generalize r.fields = fs, r'.fields = fs' at h
  induction h with
  | nil => exact .none
  | cons hfield _ ih =>
    rw [List.find?_cons, List.find?_cons, hfield.name]
    split
    · exact .some hfield
    · exact ih

theorem refines_readMember (h : List.Forall₂ (Field.Refines D) r.fields r'.fields) {draft : δ}
    {draft' : δ'} (name : String) (hdraft : D draft draft') :
    Reader.Refines (r.readMember draft name) (r'.readMember draft' name) D := by
  intro s taken t hread
  have hfield := field?_refines h name
  unfold readMember at hread ⊢
  cases hf : r.field? name with
  | none =>
    rw [hf] at hfield
    cases hf' : r'.field? name with
    | some f' =>
      rw [hf'] at hfield
      cases hfield
    | none =>
      simp only [hf, bind_eq_ok] at hread ⊢
      obtain ⟨u, hcolon, v, hskip, hread⟩ := hread
      cases hread
      exact ⟨draft', ⟨u, hcolon, _, hskip, rfl⟩, hdraft⟩
  | some f =>
    rw [hf] at hfield
    cases hf' : r'.field? name with
    | none =>
      rw [hf'] at hfield
      cases hfield
    | some f' =>
      rw [hf'] at hfield
      obtain ⟨hfield⟩ := hfield
      simp only [hf, hfield.known _ _ hdraft] at hread ⊢
      split at hread
      · cases hread
      · rename_i hnew
        simp only [if_neg hnew, bind_eq_ok] at hread ⊢
        obtain ⟨⟨set, u⟩, hset, hread⟩ := hread
        cases hread
        obtain ⟨set', hset', hkeeps⟩ := hfield.reads.afterColon _ _ _ hset
        exact ⟨_, ⟨_, hset', rfl⟩, hkeeps _ _ hdraft⟩

theorem refines_readElements (tooShort tooShort' : String) {fs : List (Field δ)}
    {fs' : List (Field δ')} (h : List.Forall₂ (Field.Refines D) fs fs') (i : Nat) (first : Bool)
    {draft : δ} {draft' : δ'} (hdraft : D draft draft') :
    Reader.Refines (readElements tooShort fs i first draft)
      (readElements tooShort' fs' i first draft') D := by
  induction h generalizing i first draft draft' with
  | nil =>
    intro s taken t hread
    cases hread
    exact ⟨draft', rfl, hdraft⟩
  | cons hfield _ ih =>
    intro s taken t hread
    simp only [readElements, bind_eq_ok] at hread ⊢
    obtain ⟨⟨more, u⟩, hnext, hread⟩ := hread
    cases more with
    | true =>
      simp only [if_true, bind_eq_ok] at hread
      obtain ⟨⟨set, v⟩, hset, hread⟩ := hread
      obtain ⟨set', hset', hkeeps⟩ := hfield.reads _ _ _ hset
      obtain ⟨taken', htaken', hrel⟩ := ih _ _ (hkeeps _ _ hdraft) _ _ _ hread
      refine ⟨taken', ⟨_, hnext, ?_⟩, hrel⟩
      simp only [if_true, bind_eq_ok]
      exact ⟨_, hset', htaken'⟩
    | false =>
      simp only [Bool.false_eq_true, if_false, hfield.optional] at hread
      split at hread
      · rename_i hoptional
        obtain ⟨taken', htaken', hrel⟩ := ih _ _ hdraft _ _ _ hread
        refine ⟨taken', ⟨_, hnext, ?_⟩, hrel⟩
        simp only [Bool.false_eq_true, if_false, if_pos hoptional]
        exact htaken'
      · cases hread

/-- Records of the same members read the same objects and lists, if what completes a draft of the
first completes a draft of the second. -/
theorem refines_read {R : α → β → Prop}
    (hfields : List.Forall₂ (Field.Refines D) r.fields r'.fields) (hblank : D r.blank r'.blank)
    (hbuild : ∀ draft draft' a, D draft draft' → r.build draft = .ok a →
      ∃ b, r'.build draft' = .ok b ∧ R a b) : r.decoder.read.Refines r'.decoder.read R := by
  simp only [decoder, Record.read]
  refine Reader.Refines.dispatch fun c s a t hread => ?_
  split at hread
  · rename_i hobject
    simp only [if_pos hobject, bind_eq_ok] at hread ⊢
    obtain ⟨⟨draft, u⟩, hdraft, a, ha, v, hend, hread⟩ := hread
    cases hread
    obtain ⟨draft', hdraft', hrel⟩ := Reader.refines_members
      (fun _ _ name h => refines_readMember hfields name h) _ hblank _ _ _ hdraft
    obtain ⟨b, hb, hr⟩ := hbuild _ _ _ hrel ha
    exact ⟨b, ⟨_, hdraft', _, hb, _, hend, rfl⟩, hr⟩
  · rename_i hobject
    split at hread
    · rename_i hlist
      simp only [if_neg hobject, if_pos hlist, bind_eq_ok] at hread ⊢
      obtain ⟨⟨draft, u⟩, hdraft, a, ha, v, hend, hread⟩ := hread
      cases hread
      obtain ⟨draft', hdraft', hrel⟩ :=
        refines_readElements _ r'.expectedLength hfields _ _ hblank _ _ _ hdraft
      obtain ⟨b, hb, hr⟩ := hbuild _ _ _ hrel ha
      exact ⟨b, ⟨_, hdraft', _, hb, _, hend, rfl⟩, hr⟩
    · cases hread

end Record

end VectorReplay.Json
