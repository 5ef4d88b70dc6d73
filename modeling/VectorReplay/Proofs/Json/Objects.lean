import VectorReplay.Proofs.Json.Lengths

/-!
Objects as their text spells them: names and values from left to right, whatever is made of them. An
object whose entries are taken in one by one is a fold over its members, faults included.
-/
namespace VectorReplay.Json

variable {β σ κ : Type}

/-- The members up to a closing bracket, from left to right, and the text behind it. -/
inductive Members (read : Reader β) :
    (first : Bool) → (s : List Char) → (ms : List (String × β)) → (rest : List Char) → Prop
  | close {first : Bool} {s rest : List Char} (bracket : skipSpace s = '\x7d' :: rest) :
    Members read first s [] rest
  | member {first : Bool} {s t u v w rest name : List Char} {b : β} {ms : List (String × β)}
    (opens : Opens first s t) (named : stringBody t = .ok (name, u)) (parted : colon u = .ok v)
    (value : read v = .ok (b, w)) (further : Members read false w ms rest) :
    Members read first s ((String.ofList name, b) :: ms) rest

/-- What the reader ensures holds of the value of every member. -/
theorem Members.forall_value {read : Reader β} {P : β → Prop} (hread : read.Ensures P) {first : Bool}
    {s rest : List Char} {ms : List (String × β)} (h : Members read first s ms rest) :
    ∀ m ∈ ms, P m.2 := by
  induction h with
  | close => simp
  | member opens named parted value further ih =>
    exact List.forall_mem_cons.mpr ⟨hread _ _ _ value, ih⟩

/-- A text that is one object, blanks apart. -/
def IsObject (read : Reader β) (text : String) (ms : List (String × β)) : Prop :=
  ∃ s rest, skipSpace text.toList = '{' :: s ∧ Members read true s ms rest ∧ skipSpace rest = []

namespace Decoder

variable {expected : String} {key : String → Except Error κ} {value : Decoder β} {blank : σ}
  {add : σ → κ → β → Except Error σ}

/-- The entries of all members, taken in from left to right. -/
def takeIn (key : String → Except Error κ) (add : σ → κ → β → Except Error σ) (acc : σ)
    (ms : List (String × β)) : Except Error σ :=
  ms.foldlM (fun acc m => do
    let k ← key m.1
    add acc k m.2) acc

theorem takeIn_cons (acc : σ) (m : String × β) (ms : List (String × β)) :
    takeIn key add acc (m :: ms) =
      key m.1 >>= fun k => add acc k m.2 >>= fun acc => takeIn key add acc ms := by
  rw [takeIn, List.foldlM_cons, bind_assoc]
  rfl

/-- A member has a character of its own, so there is fuel for all. -/
theorem members_of_members (hconsumes : value.read.Consumes) {first : Bool} {s rest : List Char}
    {ms : List (String × β)} (h : Members value.read first s ms rest) {fuel : Nat}
    (hfuel : s.length < fuel) (acc : σ) : Reader.members (entries.step key value add) fuel first acc s =
      (takeIn key add acc ms).map (·, '\x7d' :: rest) := by
  induction h generalizing fuel acc with
  | close bracket =>
    obtain ⟨fuel, rfl⟩ := Nat.exists_eq_succ_of_ne_zero (Nat.ne_of_gt (Nat.zero_lt_of_lt hfuel))
    simp only [Reader.members, nextMember_of_close _ bracket]
    rfl
  | @member first s t u v w rest name b ms opens named parted hvalue further ih =>
    obtain ⟨fuel, rfl⟩ := Nat.exists_eq_succ_of_ne_zero (Nat.ne_of_gt (Nat.zero_lt_of_lt hfuel))
    have hw : w.length < fuel := by
      have hopens := opens.length_lt
      have hname := length_of_stringBody named
      have hcolon := length_of_colon parted
      have hle := hconsumes _ _ _ hvalue
      omega
    have hafter : Reader.afterColon value.read u = .ok (b, w) := bind_eq_ok.mpr ⟨v, parted, hvalue⟩
    simp only [Reader.members, nextMember_of_opens opens, named, entries.step, hafter, takeIn_cons,
      bind, Except.bind, if_true]
    cases key (String.ofList name) with
    | error e => rfl
    | ok k =>
      dsimp only
      cases add acc k b with
      | error e => rfl
      | ok acc' => exact ih hw acc'

theorem exists_members {fuel : Nat} {first : Bool} {acc acc' : σ} {s r : List Char}
    (h : Reader.members (entries.step key value add) fuel first acc s = .ok (acc', r)) :
    ∃ ms rest, Members value.read first s ms rest ∧ r = '\x7d' :: rest := by
  induction fuel generalizing first acc s with
  | zero => cases h
  | succ fuel ih =>
    simp only [Reader.members, bind_eq_ok] at h
    obtain ⟨⟨more, t⟩, hnext, h⟩ := h
    rcases nextMember_cases hnext with ⟨rfl, hopens⟩ | ⟨rfl, rest, hs, rfl⟩
    · simp only [if_true, bind_eq_ok, entries.step, Reader.afterColon] at h
      obtain ⟨⟨name, u⟩, hname, ⟨taken, w⟩, ⟨k, -, ⟨b, w'⟩, ⟨v, hv, hb⟩, acc'', -, hpair⟩, h⟩ := h
      cases hpair
      obtain ⟨ms, rest, hms, rfl⟩ := ih h
      exact ⟨_, rest, .member hopens hname hv hb hms, rfl⟩
    · cases h
      exact ⟨[], rest, .close hs, rfl⟩

theorem decode_of_isObject (hconsumes : value.read.Consumes) {text : String}
    {ms : List (String × β)} (h : IsObject value.read text ms) :
    (entries expected key value blank add).decode text = takeIn key add blank ms := by
  obtain ⟨s, rest, hopen, hmembers, hrest⟩ := h
  have hclose : endObject ('\x7d' :: rest) = .ok rest := rfl
  have hfold : Reader.members (entries.step key value add) (s.length + 1) true blank s =
      (takeIn key add blank ms).map (·, '\x7d' :: rest) :=
    members_of_members hconsumes hmembers (Nat.lt_succ_self s.length) blank
  simp only [decode, Reader.run, entries, Reader.dispatch, hopen, if_true, List.drop_succ_cons,
    List.drop_zero, Reader.objectBody, hfold]
  cases takeIn key add blank ms with
  | error e => rfl
  | ok acc =>
    simp only [Except.map, bind, Except.bind, hclose, pure, Except.pure, hrest]

theorem exists_isObject {text : String} {acc : σ}
    (h : (entries expected key value blank add).decode text = .ok acc) :
    ∃ ms, IsObject value.read text ms := by
  obtain ⟨rest, hread, hrest⟩ := decode_eq_ok_iff.mp h
  simp only [entries] at hread
  obtain ⟨c, s, hopen, hread⟩ := Reader.dispatch_eq_ok.mp hread
  split at hread
  next hbrace =>
    simp only [Reader.objectBody, bind_eq_ok, List.drop_succ_cons, List.drop_zero] at hread
    obtain ⟨⟨acc', t⟩, hmembers, u, hclose, hread⟩ := hread
    cases hread
    obtain ⟨ms, rest', hms, rfl⟩ := exists_members hmembers
    cases hclose
    exact ⟨ms, s, rest, by rw [hopen, hbrace], hms, hrest⟩
  next => cases hread

end Decoder

end VectorReplay.Json
