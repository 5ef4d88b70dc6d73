import VectorReplay.Proofs.Json.Records

/-!
Values that are read once more. A number may be handed on as an object with one member, and the number
key tells such objects apart, so that an object which another key kept from being a number is taken for
one as soon as its members are sorted. Main statement: what was read from a text is read once more as it
is, or refused for such an object inside.
-/
namespace VectorReplay.Json

namespace Value

/-! ### Members in order -/

section
variable {key k : String} {v : Value} {m : String × Value} {vs vs' ms : List (String × Value)}

theorem mem_of_mem_insertMember (h : m ∈ insertMember key v ms) : m = (key, v) ∨ m ∈ ms := by
  induction ms with
  | nil => simpa [insertMember] using h
  | cons n ms ih =>
    obtain ⟨k, w⟩ := n
    rw [insertMember] at h
    split_ifs at h
    · simpa using h
    · rcases List.mem_cons.mp h with rfl | h
      · simp
      · rcases ih h with rfl | h
        · simp
        · simp [h]
    · rcases List.mem_cons.mp h with rfl | h
      · simp
      · simp [h]

theorem mem_keys_insertMember :
    k ∈ (insertMember key v ms).map Prod.fst ↔ k = key ∨ k ∈ ms.map Prod.fst := by
  induction ms with
  | nil => simp [insertMember]
  | cons n ms ih =>
    obtain ⟨k', w⟩ := n
    rw [insertMember]
    split_ifs with hlt hgt
    · simp
    · rw [List.map_cons, List.mem_cons, ih, List.map_cons, List.mem_cons]
      exact or_left_comm
    · -- Keys that are not below each other are one key, whose member is replaced.
      have hsame : k' = key := String.le_antisymm (String.not_lt.mp hlt) (String.not_lt.mp hgt)
      simp [hsame]

theorem mem_of_takeIn (h : Decoder.takeIn .ok place vs ms = .ok vs') (hm : m ∈ vs') :
    m ∈ vs ∨ m ∈ ms := by
  induction ms generalizing vs with
  | nil =>
    cases h
    exact .inl hm
  | cons n ms ih =>
    rw [Decoder.takeIn_cons] at h
    rcases ih h with hm | hm
    · rcases mem_of_mem_insertMember hm with rfl | hm
      · exact .inr List.mem_cons_self
      · exact .inl hm
    · exact .inr (List.mem_cons_of_mem n hm)

theorem mem_keys_of_takeIn (h : Decoder.takeIn .ok place vs ms = .ok vs') :
    k ∈ vs'.map Prod.fst ↔ k ∈ vs.map Prod.fst ∨ k ∈ ms.map Prod.fst := by
  induction ms generalizing vs with
  | nil =>
    cases h
    simp
  | cons n ms ih =>
    rw [Decoder.takeIn_cons] at h
    rw [ih h, mem_keys_insertMember, List.map_cons, List.mem_cons, or_assoc]
    exact or_left_comm

end

/-! ### Ordinary values -/

/-- In no object inside, however deep, does the number key stand in front. -/
inductive Ordinary : Value → Prop
  | null : Ordinary .null
  | boolean (b : Bool) : Ordinary (.boolean b)
  | number (text : String) : Ordinary (.number text)
  | text (s : String) : Ordinary (.text s)
  | list {items : List Value} (h : ∀ v ∈ items, Ordinary v) : Ordinary (.list items)
  | object {members : List (String × Value)} (front : NoNumber members)
    (h : ∀ m ∈ members, Ordinary m.2) : Ordinary (.object members)

section
variable {v w : Value} {vs ws : List Value} {ms ns : List (String × Value)}

theorem againItems_self (h : ∀ v ∈ vs, v.again = .ok v) : againItems vs = .ok vs := by
  induction vs with
  | nil => rfl
  | cons v vs ih =>
    obtain ⟨hv, hvs⟩ := List.forall_mem_cons.mp h
    rw [againItems, hv, ih hvs]
    rfl

theorem againMembers_self (h : ∀ m ∈ ms, m.2.again = .ok m.2) : againMembers ms = .ok ms := by
  induction ms with
  | nil => rfl
  | cons m ms ih =>
    obtain ⟨hm, hms⟩ := List.forall_mem_cons.mp h
    rw [againMembers, hm, ih hms]
    rfl

theorem exists_again_of_againItems (h : againItems vs = .ok ws) : ∀ v ∈ vs, ∃ w, v.again = .ok w := by
  induction vs generalizing ws with
  | nil => simp
  | cons v vs ih =>
    simp only [againItems, bind_eq_ok] at h
    obtain ⟨w, hw, ws, hws, -⟩ := h
    exact List.forall_mem_cons.mpr ⟨⟨w, hw⟩, ih hws⟩

theorem exists_again_of_againMembers (h : againMembers ms = .ok ns) :
    ∀ m ∈ ms, ∃ w, m.2.again = .ok w := by
  induction ms generalizing ns with
  | nil => simp
  | cons m ms ih =>
    simp only [againMembers, bind_eq_ok] at h
    obtain ⟨w, hw, ns, hns, -⟩ := h
    exact List.forall_mem_cons.mpr ⟨⟨w, hw⟩, ih hns⟩

theorem again_object (h : NoNumber ms) : (object ms).again = (againMembers ms).map object := by
  cases ms with
  | nil => rfl
  | cons m ms =>
    have hkey : m.1 ≠ numberKey := h m rfl
    rw [again, if_neg hkey, againMembers]
    cases m.2.again with
    | error e => rfl
    | ok w => cases againMembers ms <;> rfl

/-- A number has no further members. -/
theorem isEmpty_of_again {m : String × Value} (hkey : m.1 = numberKey)
    (h : (object (m :: ms)).again = .ok w) : ms = [] := by
  rw [again, if_pos hkey] at h
  obtain ⟨n, -, h⟩ := bind_eq_ok.mp h
  split_ifs at h with hempty
  exact List.isEmpty_iff.mp hempty

theorem Ordinary.again_eq (h : v.Ordinary) : v.again = .ok v := by
  induction h with
  | null => rfl
  | boolean => rfl
  | number => rfl
  | text => rfl
  | list h ih =>
    rw [again, againItems_self ih]
    rfl
  | object front h ih =>
    rw [again_object front, againMembers_self ih]
    rfl

end

/-! ### Values that were read -/

/-- The key that kept an object from being a number is still there when its members are sorted, so that
the number key never has them all. -/
theorem noNumber_of_again {ms vs : List (String × Value)} {w : Value} (hms : NoNumber ms)
    (htaken : Decoder.takeIn .ok place [] ms = .ok vs) (h : (object vs).again = .ok w) :
    NoNumber vs := by
  intro m hm hkey
  obtain ⟨rest, rfl⟩ := List.head?_eq_some_iff.mp hm
  obtain rfl := isEmpty_of_again hkey h
  cases ms with
  | nil => cases htaken
  | cons n ms =>
    have hn : n.1 ∈ [m].map Prod.fst :=
      (mem_keys_of_takeIn htaken).mpr (.inr (List.mem_map_of_mem List.mem_cons_self))
    have hsame : n.1 = m.1 := by simpa using hn
    exact hms n rfl (hsame.trans hkey)

theorem ordinary_of_readScalar {c : Char} {t r : List Char} {v : Value}
    (h : readScalar c t = .ok (v, r)) : v.Ordinary := by
  rcases readScalar_cases h with ⟨rfl, -⟩ | ⟨b, rfl⟩ | ⟨text, rfl⟩ | ⟨text, rfl⟩
  · exact .null
  · exact .boolean b
  · exact .number text
  · exact .text text

theorem ensures_ordinary_of_again (depth : Nat) :
    Reader.Ensures (Value.read depth) fun v => ∀ w, v.again = .ok w → v.Ordinary := by
  induction depth with
  | zero =>
    intro s v r hread w h
    obtain ⟨c, t, -, hscalar⟩ := Reader.dispatch_eq_ok.mp hread
    split_ifs at hscalar
    exact ordinary_of_readScalar hscalar
  | succ depth ih =>
    intro s v r hread w h
    obtain ⟨c, t, -, hbody⟩ := Reader.dispatch_eq_ok.mp hread
    split_ifs at hbody with hlist hobject
    · obtain ⟨⟨items, u⟩, hitems, hpair⟩ := map_eq_ok.mp hbody
      cases hpair
      obtain ⟨ws, hws, -⟩ := map_eq_ok.mp h
      apply Ordinary.list
      intro v hv
      obtain ⟨w', hw'⟩ := exists_again_of_againItems hws v hv
      exact ih.listBody _ _ _ hitems v hv w' hw'
    · rcases objectBody_eq_ok_iff.mp hbody with ⟨u, x, y, -, -, hnumber, -⟩ | ⟨-, vs, -, rfl⟩
      · obtain ⟨text, rfl⟩ := Decoder.exists_number_of_quotedNumber hnumber
        exact .number text
      · obtain ⟨t', ms, -, hms, hfront, htaken⟩ := read_eq_object_iff_members.mp hread
        have hvs : NoNumber vs := noNumber_of_again hfront htaken h
        rw [again_object hvs] at h
        obtain ⟨ns, hns, -⟩ := map_eq_ok.mp h
        apply Ordinary.object hvs
        intro m hm
        have hspelled : m ∈ ms := (mem_of_takeIn htaken hm).resolve_left (List.not_mem_nil)
        obtain ⟨w', hw'⟩ := exists_again_of_againMembers hns m hm
        exact hms.forall_value ih m hspelled w' hw'
    · exact ordinary_of_readScalar hbody

/-- What was read from a text is read once more as it is if it is ordinary, and refused if not. -/
theorem ensures_again (depth : Nat) :
    Reader.Ensures (Value.read depth) fun v => ∀ w, v.again = .ok w ↔ v.Ordinary ∧ w = v := by
  intro s v r hread w
  constructor
  · intro h
    have hordinary : v.Ordinary := ensures_ordinary_of_again depth _ _ _ hread w h
    exact ⟨hordinary, Except.ok.inj (h.symm.trans hordinary.again_eq)⟩
  · rintro ⟨hordinary, rfl⟩
    exact hordinary.again_eq

end Value

end VectorReplay.Json
