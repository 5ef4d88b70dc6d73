import VectorReplay.Json.Record
import VectorReplay.Proofs.Json.Objects
import VectorReplay.Proofs.Json.Passing

/-!
What decoders make of objects. A text is read as an object exactly if it spells members that are values
and do not begin with the number key, and a record is read member by member; `null` is one word at any
depth.
-/
namespace VectorReplay.Json

variable {α β σ δ : Type}

/-! ### Objects as values -/

/-- Puts a member at its place. None is refused. -/
def Value.place (vs : List (String × Value)) (key : String) (v : Value) :
    Except Error (List (String × Value)) :=
  .ok (insertMember key v vs)

theorem Value.member_eq_step (depth : Nat) :
    member (Value.read depth) = Decoder.entries.step .ok (Decoder.value depth) place := by
  funext ms key s
  have hread : (Decoder.value depth).read = Value.read depth := rfl
  simp only [member, Decoder.entries.step, hread, bind, Except.bind, place]
  cases Reader.afterColon (Value.read depth) s <;> rfl

theorem Value.exists_takeIn (vs ms : List (String × Value)) :
    ∃ vs', Decoder.takeIn .ok place vs ms = .ok vs' := by
  induction ms generalizing vs with
  | nil => exact ⟨vs, rfl⟩
  | cons m ms ih =>
    rw [Decoder.takeIn_cons]
    exact ih _

/-- Members of an object that is no number: the number key does not stand in front. -/
def Value.NoNumber (ms : List (String × β)) : Prop :=
  ∀ m ∈ ms.head?, m.1 ≠ numberKey

theorem Members.afterNumberKey?_eq_none_iff {read : Reader β} {s rest : List Char}
    {ms : List (String × β)} (h : Members read true s ms rest) :
    Value.afterNumberKey? s = none ↔ Value.NoNumber ms := by
  cases h with
  | close bracket => simp [Value.afterNumberKey?, nextMember_of_close _ bracket, Value.NoNumber]
  | member opens named parted value further =>
    simp [Value.afterNumberKey?, nextMember_of_opens opens, named, Value.NoNumber]

theorem Value.exists_number_of_readNumber {s r : List Char} {v : Value}
    (h : readNumber s = .ok (v, r)) : ∃ text, v = .number text := by
  unfold readNumber at h
  split at h
  all_goals
    obtain ⟨⟨digits, u⟩, -, h⟩ := bind_eq_ok.mp h
    cases h
    exact ⟨_, rfl⟩

theorem Value.exists_number_of_text {s : List Char} {v : Value} (h : ofNumberText s = .ok v) :
    ∃ text, v = .number text := by
  unfold ofNumberText at h
  split at h
  next hread =>
    cases h
    exact exists_number_of_readNumber hread
  next => cases h
  next => cases h

theorem Decoder.exists_number_of_quotedNumber {s r : List Char} {v : Value}
    (h : quotedNumber.read s = .ok (v, r)) : ∃ text, v = .number text := by
  simp only [quotedNumber, text] at h
  obtain ⟨c, t, -, h⟩ := Reader.dispatch_eq_ok.mp h
  split_ifs at h
  simp only [bind_eq_ok] at h
  obtain ⟨⟨name, u⟩, -, n, hn, h⟩ := h
  cases h
  exact Value.exists_number_of_text hn

/-- Scalars are told by their first character. -/
theorem Value.readScalar_cases {c : Char} {t r : List Char} {v : Value}
    (h : readScalar c t = .ok (v, r)) : (v = .null ∧ c = 'n' ∧ word "ull".toList t = .ok r) ∨
      (∃ b, v = .boolean b) ∨ (∃ text, v = .number text) ∨ ∃ text, v = .text text := by
  unfold readScalar at h
  split_ifs at h with hnull
  · obtain ⟨u, hu, hpair⟩ := map_eq_ok.mp h
    cases hpair
    exact .inl ⟨rfl, hnull, hu⟩
  · obtain ⟨u, -, hpair⟩ := map_eq_ok.mp h
    cases hpair
    exact .inr (.inl ⟨true, rfl⟩)
  · obtain ⟨u, -, hpair⟩ := map_eq_ok.mp h
    cases hpair
    exact .inr (.inl ⟨false, rfl⟩)
  · exact .inr (.inr (.inl (exists_number_of_readNumber h)))
  · obtain ⟨⟨text, u⟩, -, hpair⟩ := map_eq_ok.mp h
    cases hpair
    exact .inr (.inr (.inr ⟨_, rfl⟩))

/-- A value is a scalar, or a bracket opens it; an object bracket opens a number, too. -/
theorem Value.read_cases {depth : Nat} {s r : List Char} {v : Value}
    (h : Value.read depth s = .ok (v, r)) : ∃ c t, skipSpace s = c :: t ∧
      (readScalar c t = .ok (v, r) ∨ (∃ text, v = .number text) ∨ (∃ items, v = .list items) ∨
        ∃ ms, v = .object ms) := by
  cases depth with
  | zero =>
    obtain ⟨c, t, hs, hread⟩ := Reader.dispatch_eq_ok.mp h
    split_ifs at hread
    exact ⟨c, t, hs, .inl hread⟩
  | succ depth =>
    obtain ⟨c, t, hs, hread⟩ := Reader.dispatch_eq_ok.mp h
    refine ⟨c, t, hs, ?_⟩
    split_ifs at hread
    · obtain ⟨⟨items, u⟩, -, hpair⟩ := map_eq_ok.mp hread
      cases hpair
      exact .inr (.inr (.inl ⟨items, rfl⟩))
    · rcases objectBody_eq_ok_iff.mp hread with ⟨u, x, w, -, -, hnumber, -⟩ | ⟨-, ms, -, rfl⟩
      · exact .inr (.inl (Decoder.exists_number_of_quotedNumber hnumber))
      · exact .inr (.inr (.inr ⟨ms, rfl⟩))
    · exact .inl hread

theorem Value.read_eq_object_iff {depth : Nat} {s r : List Char} {vs : List (String × Value)} :
    Value.read (depth + 1) s = .ok (.object vs, r) ↔ ∃ t, skipSpace s = '{' :: t ∧
      afterNumberKey? t = none ∧
      Reader.objectBody (Decoder.entries.step .ok (Decoder.value depth) place) [] t =
        .ok (vs, r) := by
  rw [← member_eq_step, Value.read, Reader.dispatch_eq_ok]
  constructor
  · rintro ⟨c, t, hs, hread⟩
    split_ifs at hread with hlist hobject
    · obtain ⟨⟨items, u⟩, -, hpair⟩ := map_eq_ok.mp hread
      cases hpair
    · rcases objectBody_eq_ok_iff.mp hread with ⟨u, x, w, -, -, hnumber, -⟩ | ⟨hkey, ms, hbody, hv⟩
      · obtain ⟨text, hv⟩ := Decoder.exists_number_of_quotedNumber hnumber
        cases hv
      · cases hv
        exact ⟨t, by rw [hs, hobject], hkey, hbody⟩
    · obtain ⟨hv, -⟩ | ⟨_, hv⟩ | ⟨_, hv⟩ | ⟨_, hv⟩ := readScalar_cases hread
      all_goals cases hv
  · rintro ⟨t, hs, hkey, hbody⟩
    exact ⟨'{', t, hs, objectBody_eq_ok_iff.mpr (.inr ⟨hkey, vs, hbody, rfl⟩)⟩

/-- Objects hold what their text spells, each member at its place. -/
theorem Value.read_eq_object_iff_members {depth : Nat} {s r : List Char}
    {vs : List (String × Value)} : Value.read (depth + 1) s = .ok (.object vs, r) ↔
      ∃ t ms, skipSpace s = '{' :: t ∧ Members (Value.read depth) true t ms r ∧ NoNumber ms ∧
        Decoder.takeIn .ok place [] ms = .ok vs := by
  rw [read_eq_object_iff]
  constructor
  · rintro ⟨t, hopen, hkey, hbody⟩
    simp only [Reader.objectBody, bind_eq_ok] at hbody
    obtain ⟨⟨vs', u⟩, hmembers, v, hclose, hbody⟩ := hbody
    cases hbody
    obtain ⟨ms, rest, hms, rfl⟩ := Decoder.exists_members hmembers
    cases hclose
    rw [Decoder.members_of_members (Value.passes_read depth).consumes hms (Nat.lt_succ_self _)]
      at hmembers
    obtain ⟨vs', htaken, hpair⟩ := map_eq_ok.mp hmembers
    cases hpair
    exact ⟨t, ms, hopen, hms, hms.afterNumberKey?_eq_none_iff.mp hkey, htaken⟩
  · rintro ⟨t, ms, hopen, hms, hkey, htaken⟩
    have hmembers : Reader.members (Decoder.entries.step .ok (Decoder.value depth) place)
        (t.length + 1) true [] t = .ok (vs, '\x7d' :: r) := by
      rw [Decoder.members_of_members (Value.passes_read depth).consumes hms (Nat.lt_succ_self _),
        htaken]
      rfl
    have hclose : endObject ('\x7d' :: r) = .ok r := rfl
    refine ⟨t, hopen, hms.afterNumberKey?_eq_none_iff.mpr hkey, ?_⟩
    simp only [Reader.objectBody, bind_eq_ok]
    exact ⟨_, hmembers, _, hclose, rfl⟩

/-- A text is read as an object exactly if it spells one that is no number. -/
theorem exists_decode_object_iff (depth : Nat) (text : String) :
    (∃ vs, (Decoder.value (depth + 1)).decode text = .ok (.object vs)) ↔
      ∃ ms, IsObject (Value.read depth) text ms ∧ Value.NoNumber ms := by
  have hread : (Decoder.value (depth + 1)).read = Value.read (depth + 1) := rfl
  simp only [Decoder.decode_eq_ok_iff, hread, Value.read_eq_object_iff_members]
  constructor
  · rintro ⟨vs, r, ⟨t, ms, hopen, hms, hkey, -⟩, hr⟩
    exact ⟨ms, ⟨t, r, hopen, hms, hr⟩, hkey⟩
  · rintro ⟨ms, ⟨s, rest, hopen, hms, hrest⟩, hkey⟩
    obtain ⟨vs, hvs⟩ := Value.exists_takeIn [] ms
    exact ⟨vs, rest, ⟨s, ms, hopen, hms, hkey, hvs⟩, hrest⟩

/-! ### Records of an object -/

namespace Record

variable {r : Record δ α} {text : String} {s rest : List Char} {draft : δ}

theorem decode_eq_build (hopen : skipSpace text.toList = '{' :: s) (hrest : skipSpace rest = [])
    (hmembers : Reader.members r.readMember (s.length + 2) true r.blank s =
      .ok (draft, '\x7d' :: rest)) : r.decoder.decode text = r.build draft := by
  have hclose : endObject ('\x7d' :: rest) = .ok rest := rfl
  simp only [Decoder.decode, Reader.run, decoder, Record.read, Reader.dispatch, hopen, if_true,
    List.length_cons, List.drop_succ_cons, List.drop_zero, hmembers, bind, Except.bind]
  cases r.build draft with
  | error e => rfl
  | ok a => simp only [hclose, pure, Except.pure, hrest]

theorem exists_draft_of_decode {a : α} (hopen : skipSpace text.toList = '{' :: s)
    (h : r.decoder.decode text = .ok a) : ∃ draft t,
      Reader.members r.readMember (s.length + 2) true r.blank s = .ok (draft, t) ∧
      r.build draft = .ok a := by
  obtain ⟨u, hread, -⟩ := Decoder.decode_eq_ok_iff.mp h
  simp only [decoder, Record.read, Reader.dispatch, hopen, if_true, List.length_cons,
    List.drop_succ_cons, List.drop_zero, bind_eq_ok] at hread
  obtain ⟨⟨draft, v⟩, hmembers, b, hbuild, w, -, hread⟩ := hread
  cases hread
  exact ⟨draft, v, hmembers, hbuild⟩

variable {name : String} {draft' : δ} {u w : List Char}

/-- A known member is read once. -/
theorem readMember_eq_ok_iff {optional : Bool} {get : δ → Option β} {set : β → δ → δ}
    {d : Decoder β} (hfield : r.field? name = some (.of name optional get set d)) :
    r.readMember draft name u = .ok (draft', w) ↔ get draft = none ∧
      ∃ v b, colon u = .ok v ∧ d.read v = .ok (b, w) ∧ draft' = set b draft := by
  rw [readMember, hfield]
  dsimp only
  constructor
  · intro h
    split_ifs at h with hknown
    obtain ⟨⟨f, t⟩, hset, h⟩ := bind_eq_ok.mp h
    obtain ⟨v, hcolon, hset⟩ := bind_eq_ok.mp hset
    obtain ⟨⟨b, t'⟩, hread, hset⟩ := bind_eq_ok.mp hset
    cases hset
    cases h
    exact ⟨by simpa [Field.of] using hknown, v, b, hcolon, hread, rfl⟩
  · rintro ⟨hnew, v, b, hcolon, hread, rfl⟩
    rw [if_neg (by simp [Field.of, hnew])]
    have hset : Reader.afterColon (d.andThen fun b => .ok (set b)).read u = .ok (set b, w) :=
      bind_eq_ok.mpr ⟨v, hcolon, bind_eq_ok.mpr ⟨_, hread, rfl⟩⟩
    exact bind_eq_ok.mpr ⟨_, hset, rfl⟩

theorem readMember_unknown_eq_ok_iff (hfield : r.field? name = none) :
    r.readMember draft name u = .ok (draft', w) ↔
      draft' = draft ∧ ∃ v, colon u = .ok v ∧ skipValue v = .ok w := by
  rw [readMember, hfield]
  simp only [bind_eq_ok]
  constructor
  · rintro ⟨v, hcolon, t, hskip, h⟩
    cases h
    exact ⟨rfl, v, hcolon, hskip⟩
  · rintro ⟨rfl, v, hcolon, hskip⟩
    exact ⟨v, hcolon, w, hskip, rfl⟩

end Record

/-! ### Nulls -/

/-- Nulls are read where the word stands, at any depth. -/
theorem Value.read_eq_null_iff {depth : Nat} {s r : List Char} :
    Value.read depth s = .ok (.null, r) ↔
      ∃ t, skipSpace s = 'n' :: t ∧ word "ull".toList t = .ok r := by
  constructor
  · intro h
    obtain ⟨c, t, hs, hread | ⟨_, hv⟩ | ⟨_, hv⟩ | ⟨_, hv⟩⟩ := read_cases h
    · obtain ⟨-, rfl, hword⟩ | ⟨_, hv⟩ | ⟨_, hv⟩ | ⟨_, hv⟩ := readScalar_cases hread
      · exact ⟨t, hs, hword⟩
      all_goals cases hv
    all_goals cases hv
  · rintro ⟨t, hs, hword⟩
    have hnull : readScalar 'n' t = .ok (.null, r) := map_eq_ok.mpr ⟨r, hword, rfl⟩
    cases depth with
    | zero => exact Reader.dispatch_eq_ok.mpr ⟨'n', t, hs, hnull⟩
    | succ depth => exact Reader.dispatch_eq_ok.mpr ⟨'n', t, hs, hnull⟩

theorem Decoder.read_nullable_eq_none_iff {d : Decoder α} {s r : List Char} :
    d.nullable.read s = .ok (none, r) ↔
      ∃ t, skipSpace s = 'n' :: t ∧ word "ull".toList t = .ok r := by
  rw [nullable, Reader.dispatch_eq_ok]
  constructor
  · rintro ⟨c, t, hs, hread⟩
    split_ifs at hread with hnull
    · obtain ⟨u, hword, hpair⟩ := map_eq_ok.mp hread
      cases hpair
      exact ⟨t, by rw [hs, hnull], hword⟩
    · obtain ⟨⟨a, u⟩, -, hpair⟩ := map_eq_ok.mp hread
      cases hpair
  · rintro ⟨t, hs, hword⟩
    exact ⟨'n', t, hs, map_eq_ok.mpr ⟨r, hword, rfl⟩⟩

end VectorReplay.Json
