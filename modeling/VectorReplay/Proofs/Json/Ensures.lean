import VectorReplay.Json.Record
import VectorReplay.Proofs.Computation

/-!
What every value satisfies that a decoder reads, whatever the text is: a predicate that the parts of
an object keep while they are taken in.
-/
namespace VectorReplay.Json

variable {α β σ δ : Type}

/-- Whatever the reader answers satisfies `P`. -/
def Reader.Ensures (read : Reader α) (P : α → Prop) : Prop :=
  ∀ s a r, read s = .ok (a, r) → P a

namespace Reader

theorem dispatch_eq_ok {choose : Char → Reader α} {s : List Char} {p : α × List Char} :
    dispatch choose s = .ok p ↔ ∃ c t, skipSpace s = c :: t ∧ choose c (c :: t) = .ok p := by
  unfold dispatch
  cases skipSpace s with
  | nil => simp
  | cons c t =>
    constructor
    · intro h
      exact ⟨c, t, rfl, h⟩
    · rintro ⟨_, _, hs, h⟩
      cases hs
      exact h

section
variable {read : Reader α} {P : α → Prop}

theorem ensures_elements (h : Ensures read P) (fuel : Nat) {first : Bool} :
    Ensures (elements read fuel first) fun as => ∀ a ∈ as, P a := by
  induction fuel generalizing first with
  | zero =>
    intro s as r hread
    cases hread
  | succ fuel ih =>
    intro s as r hread
    simp only [elements, bind_eq_ok] at hread
    obtain ⟨⟨more, t⟩, -, hread⟩ := hread
    cases more with
    | false =>
      cases hread
      simp
    | true =>
      simp only [if_true, bind_eq_ok] at hread
      obtain ⟨⟨a, u⟩, ha, ⟨rest, v⟩, hrest, hread⟩ := hread
      cases hread
      exact List.forall_mem_cons.mpr ⟨h _ _ _ ha, ih _ _ _ hrest⟩

theorem Ensures.listBody (h : Ensures read P) :
    Ensures (listBody read) fun as => ∀ a ∈ as, P a := by
  intro s as r hread
  simp only [Reader.listBody, bind_eq_ok] at hread
  obtain ⟨⟨as', t⟩, helements, u, -, hread⟩ := hread
  cases hread
  exact ensures_elements h _ _ _ _ helements

end

theorem Ensures.afterColon {read : Reader α} {P : α → Prop} (h : Ensures read P) :
    Ensures (afterColon read) P := by
  intro s a r hread
  simp only [Reader.afterColon, bind_eq_ok] at hread
  obtain ⟨t, -, hread⟩ := hread
  exact h t a r hread

/-- What every step of an object keeps holds at its end. -/
theorem ensures_members {step : σ → String → Reader σ} {P : σ → Prop}
    (hstep : ∀ acc key, P acc → Ensures (step acc key) P) (fuel : Nat) {first : Bool} {acc : σ}
    (h : P acc) : Ensures (members step fuel first acc) P := by
  induction fuel generalizing first acc with
  | zero =>
    intro s a r hread
    cases hread
  | succ fuel ih =>
    intro s a r hread
    simp only [members, bind_eq_ok] at hread
    obtain ⟨⟨more, t⟩, -, hread⟩ := hread
    cases more with
    | false =>
      cases hread
      exact h
    | true =>
      simp only [if_true, bind_eq_ok] at hread
      obtain ⟨⟨key, u⟩, -, ⟨taken, v⟩, htaken, hread⟩ := hread
      exact ih (hstep acc _ h _ _ _ htaken) _ _ _ hread

end Reader

/-! ### Decoders -/

namespace Decoder

variable {d : Decoder α} {P : α → Prop}

/-- A document is a text of which a reader leaves blanks only. -/
theorem decode_eq_ok_iff {text : String} {a : α} :
    d.decode text = .ok a ↔ ∃ r, d.read text.toList = .ok (a, r) ∧ skipSpace r = [] := by
  simp only [decode, Reader.run, bind_eq_ok]
  constructor
  · rintro ⟨⟨b, r⟩, hread, hend⟩
    dsimp only at hend
    split at hend
    next hblank =>
      cases hend
      exact ⟨r, hread, hblank⟩
    next => cases hend
  · rintro ⟨r, hread, hblank⟩
    refine ⟨(a, r), hread, ?_⟩
    simp only [hblank]
    rfl

theorem ensures_decode (h : d.read.Ensures P) {text : String} {a : α}
    (hdecode : d.decode text = .ok a) : P a := by
  obtain ⟨r, hread, -⟩ := decode_eq_ok_iff.mp hdecode
  exact h _ _ _ hread

theorem decode_andThen_eq_ok_iff {f : α → Except Error β} {text : String} {b : β} :
    (d.andThen f).decode text = .ok b ↔ ∃ a, d.decode text = .ok a ∧ f a = .ok b := by
  simp only [decode_eq_ok_iff, andThen, bind_eq_ok]
  constructor
  · rintro ⟨_, ⟨⟨a, r⟩, ha, _, hb, ⟨⟩⟩, hblank⟩
    exact ⟨a, ⟨r, ha, hblank⟩, hb⟩
  · rintro ⟨a, ⟨r, ha, hblank⟩, hb⟩
    exact ⟨r, ⟨(a, r), ha, b, hb, rfl⟩, hblank⟩

/-- Entries that are taken in one by one keep what each of them keeps. -/
theorem ensures_entries {κ : Type} {expected : String} {key : String → Except Error κ}
    {value : Decoder β} {blank : σ} {add : σ → κ → β → Except Error σ} {P : σ → Prop}
    (hblank : P blank) (hadd : ∀ acc k b acc', P acc → add acc k b = .ok acc' → P acc') :
    (entries expected key value blank add).read.Ensures P := by
  have hstep (acc : σ) (name : String) (h : P acc) :
      Reader.Ensures (entries.step key value add acc name) P := by
    intro s acc' r hread
    simp only [entries.step, bind_eq_ok] at hread
    obtain ⟨k, -, ⟨b, t⟩, -, taken, htaken, hread⟩ := hread
    cases hread
    exact hadd acc k b _ h htaken
  intro s acc r hread
  simp only [entries] at hread
  obtain ⟨c, t, -, hread⟩ := Reader.dispatch_eq_ok.mp hread
  split at hread
  · simp only [Reader.objectBody, bind_eq_ok] at hread
    obtain ⟨⟨acc', t⟩, hmembers, u, -, hread⟩ := hread
    cases hread
    exact Reader.ensures_members hstep _ hblank _ _ _ hmembers
  · cases hread

end Decoder

/-! ### Records -/

theorem eq_some_of_required {name : String} {o : Option α} {a : α} (h : required name o = .ok a) :
    o = some a := by
  cases o with
  | none => cases h
  | some b =>
    cases h
    rfl

/-- What the field reads changes a draft into one that still satisfies `D`. -/
def Field.Keeps (f : Field δ) (D : δ → Prop) : Prop :=
  f.decoder.read.Ensures fun g => ∀ draft, D draft → D (g draft)

theorem Field.keeps_of {name : String} {optional : Bool} {get : δ → Option α} {set : α → δ → δ}
    {d : Decoder α} {P : α → Prop} {D : δ → Prop} (h : d.read.Ensures P)
    (hset : ∀ a draft, P a → D draft → D (set a draft)) :
    (Field.of name optional get set d).Keeps D := by
  intro s g r hread
  simp only [Field.of, Decoder.andThen, bind_eq_ok] at hread
  obtain ⟨⟨a, t⟩, ha, f, hf, hread⟩ := hread
  cases hf
  cases hread
  intro draft hdraft
  exact hset a draft (h s a _ ha) hdraft

/-- A field that has no part in `D`. -/
theorem Field.keeps_of_free {name : String} {optional : Bool} {get : δ → Option α}
    {set : α → δ → δ} {d : Decoder α} {D : δ → Prop}
    (hset : ∀ a draft, D draft → D (set a draft)) : (Field.of name optional get set d).Keeps D := by
  have hany : d.read.Ensures fun _ => True := fun _ _ _ _ => trivial
  exact Field.keeps_of hany fun a draft _ => hset a draft

namespace Record

variable {r : Record δ α} {D : δ → Prop}

theorem ensures_readMember (hfields : ∀ f ∈ r.fields, f.Keeps D) {draft : δ} (name : String)
    (h : D draft) : Reader.Ensures (r.readMember draft name) D := by
  intro s draft' t hread
  unfold readMember at hread
  cases hf : r.field? name with
  | none =>
    simp only [hf, bind_eq_ok] at hread
    obtain ⟨u, -, v, -, hread⟩ := hread
    cases hread
    exact h
  | some f =>
    simp only [hf] at hread
    split at hread
    · cases hread
    · simp only [bind_eq_ok] at hread
      obtain ⟨⟨g, u⟩, hg, hread⟩ := hread
      cases hread
      have hknown : f ∈ r.fields := List.mem_of_find?_eq_some hf
      exact (hfields f hknown).afterColon _ _ _ hg draft h

theorem ensures_readElements (tooShort : String) {fs : List (Field δ)}
    (hfields : ∀ f ∈ fs, f.Keeps D) (i : Nat) (first : Bool) {draft : δ} (h : D draft) :
    Reader.Ensures (readElements tooShort fs i first draft) D := by
  induction fs generalizing i first draft with
  | nil =>
    intro s draft' t hread
    cases hread
    exact h
  | cons f fs ih =>
    obtain ⟨hfirst, hrest⟩ := List.forall_mem_cons.mp hfields
    intro s draft' t hread
    simp only [readElements, bind_eq_ok] at hread
    obtain ⟨⟨more, u⟩, -, hread⟩ := hread
    cases more with
    | true =>
      simp only [if_true, bind_eq_ok] at hread
      obtain ⟨⟨g, v⟩, hg, hread⟩ := hread
      have hdraft : D (g draft) := hfirst _ _ _ hg draft h
      exact ih hrest _ _ hdraft _ _ _ hread
    | false =>
      simp only [Bool.false_eq_true, if_false] at hread
      split at hread
      · exact ih hrest _ _ h _ _ _ hread
      · cases hread

/-- What the blank draft satisfies and every field keeps holds of the draft that is completed, be it
read from an object or from a list. -/
theorem ensures_read {P : α → Prop} (hblank : D r.blank) (hfields : ∀ f ∈ r.fields, f.Keeps D)
    (hbuild : ∀ draft a, D draft → r.build draft = .ok a → P a) : r.decoder.read.Ensures P := by
  intro s a t hread
  simp only [decoder, Record.read] at hread
  obtain ⟨c, t, -, hread⟩ := Reader.dispatch_eq_ok.mp hread
  split at hread
  · simp only [bind_eq_ok] at hread
    obtain ⟨⟨draft, u⟩, hdraft, b, hb, v, -, hread⟩ := hread
    cases hread
    have hmember (d : δ) (name : String) : D d → Reader.Ensures (r.readMember d name) D :=
      ensures_readMember hfields name
    have h : D draft := Reader.ensures_members hmember _ hblank _ _ _ hdraft
    exact hbuild draft _ h hb
  · split at hread
    · simp only [bind_eq_ok] at hread
      obtain ⟨⟨draft, u⟩, hdraft, b, hb, v, -, hread⟩ := hread
      cases hread
      have h : D draft := ensures_readElements _ hfields _ _ hblank _ _ _ hdraft
      exact hbuild draft _ h hb
    · cases hread

end Record

end VectorReplay.Json
