import Mathlib.Data.List.Forall2
import VectorReplay.Proofs.Account.Document
import VectorReplay.Proofs.Hex.LetterCase
import VectorReplay.Proofs.Json.Objects
import VectorReplay.Proofs.Json.Passing
import VectorReplay.Proofs.Table

/-!
The order of accounts. A document lists accounts by the addresses that the names of its members denote; it
is read as this list, or refused at the first address that comes again.
-/
namespace VectorReplay

open Json

namespace Account

theorem consumes_decoder : decoder.read.Consumes := by
  apply Reader.Passes.consumes
  apply Record.passes_read
  simp only [record, List.forall_mem_cons, Field.of]
  exact ⟨Decoder.passes_andThen Decoder.passes_text _,
    Decoder.passes_andThen (Decoder.passes_andThen Decoder.passes_text _) _,
    Decoder.passes_andThen (Decoder.passes_andThen Decoder.passes_text _) _,
    Decoder.passes_andThen (Decoder.passes_andThen (Decoder.passes_entries
      Decoder.passes_text) _) _, by simp⟩

end Account

namespace Accounts

/-- What a member lists: an account under the address that its name denotes. -/
structure Lists (m : String × Account) (e : Address × Account) : Prop where
  address : HexText.parseFixed 20 m.1 = .ok e.1
  account : m.2 = e.2

theorem add_eq_ok {as as' : Accounts} {address : Address} {a : Account} :
    as.add address a = .ok as' ↔ address ∉ as.map Prod.fst ∧ as' = as ++ [(address, a)] := by
  constructor
  · intro h
    unfold add at h
    split at h
    next => cases h
    next hget =>
      cases h
      exact ⟨Table.not_mem_of_get? (by simpa using hget), rfl⟩
  · rintro ⟨hnew, rfl⟩
    exact add_of_not_mem a hnew

/-- An address that is there already is refused. -/
theorem add_of_mem {as : Accounts} {address : Address} (a : Account)
    (h : address ∈ as.map Prod.fst) :
    as.add address a = .error (.rejected ("duplicate account " ++ Hex.marked address.bytes)) := by
  refine if_pos (Option.isSome_iff_ne_none.mpr fun hget => ?_)
  exact Table.not_mem_of_get? hget h

/-! ### Members that are taken in -/

theorem lists_of_takeIn {as as' : Accounts} {ms : List (String × Account)} (distinct : as.Distinct)
    (h : Decoder.takeIn (HexText.parseFixed 20) add as ms = .ok as') :
    ∃ es, List.Forall₂ Lists ms es ∧ as' = as ++ es ∧ as'.Distinct := by
  induction ms generalizing as with
  | nil =>
    cases h
    exact ⟨[], .nil, by rw [List.append_nil], distinct⟩
  | cons m ms ih =>
    simp only [Decoder.takeIn_cons, bind_eq_ok] at h
    obtain ⟨address, haddress, bs, hadd, h⟩ := h
    obtain ⟨es, hes, rfl, hdistinct⟩ := ih (distinct_of_add distinct hadd) h
    obtain ⟨-, rfl⟩ := add_eq_ok.mp hadd
    exact ⟨(address, m.2) :: es, .cons ⟨haddress, rfl⟩ hes, by simp, hdistinct⟩

/-- The next member is taken in behind the others if nothing stands under its address. -/
theorem takeIn_next {as after : Accounts} {m : String × Account} {e : Address × Account}
    (hm : Lists m e) (distinct : Distinct (as ++ e :: after)) (ms : List (String × Account)) :
    Decoder.takeIn (HexText.parseFixed 20) add as (m :: ms) =
      Decoder.takeIn (HexText.parseFixed 20) add (as ++ [e]) ms := by
  have hnew : e.1 ∉ as.map Prod.fst := by
    intro hmem
    rw [Distinct, List.map_append, List.nodup_append] at distinct
    exact distinct.2.2 _ hmem _ (by simp) rfl
  have hadd : as.add e.1 m.2 = .ok (as ++ [e]) := by
    rw [hm.account]
    exact add_of_not_mem e.2 hnew
  rw [Decoder.takeIn_cons, hm.address]
  simp only [bind, Except.bind, hadd]

theorem takeIn_of_lists {as es : Accounts} {ms : List (String × Account)}
    (h : List.Forall₂ Lists ms es) (distinct : Distinct (as ++ es)) :
    Decoder.takeIn (HexText.parseFixed 20) add as ms = .ok (as ++ es) := by
  induction h generalizing as with
  | nil =>
    rw [List.append_nil]
    rfl
  | @cons m e ms es hm _ ih =>
    rw [takeIn_next hm distinct ms]
    rw [List.append_cons as e es] at distinct ⊢
    exact ih distinct

theorem takeIn_of_repeated {as before after : Accounts} {e : Address × Account}
    {ms : List (String × Account)} (h : List.Forall₂ Lists ms (before ++ e :: after))
    (distinct : Distinct (as ++ before)) (hmem : e.1 ∈ (as ++ before).map Prod.fst) :
    Decoder.takeIn (HexText.parseFixed 20) add as ms =
      .error (.rejected ("duplicate account " ++ Hex.marked e.1.bytes)) := by
  induction before generalizing as ms with
  | nil =>
    obtain ⟨m, ms, hm, -, rfl⟩ := List.forall₂_cons_right_iff.mp h
    rw [List.append_nil] at hmem
    rw [Decoder.takeIn_cons, hm.address]
    simp only [bind, Except.bind, add_of_mem m.2 hmem]
  | cons d before ih =>
    obtain ⟨m, ms, hm, hms, rfl⟩ := List.forall₂_cons_right_iff.mp h
    rw [takeIn_next hm distinct ms]
    rw [List.append_cons] at distinct hmem
    exact ih hms distinct hmem

/-! ### Documents -/

section
variable {text : String} {ms : List (String × Account)} {es : Accounts}
  (hobject : IsObject Account.decoder.read text ms)
include hobject

theorem decode_eq_takeIn :
    decode text = Decoder.takeIn (HexText.parseFixed 20) add [] ms :=
  Decoder.decode_of_isObject Account.consumes_decoder hobject

theorem decode_of_distinct (h : List.Forall₂ Lists ms es) (distinct : es.Distinct) :
    decode text = .ok es :=
  (decode_eq_takeIn hobject).trans (takeIn_of_lists h distinct)

/-- The first address that comes again is named. -/
theorem exists_duplicate (h : List.Forall₂ Lists ms es) (hdistinct : ¬ es.Distinct) :
    ∃ before e after, es = before ++ e :: after ∧ e.1 ∈ before.map Prod.fst ∧
      decode text = .error (.rejected ("duplicate account " ++ Hex.marked e.1.bytes)) := by
  obtain ⟨before, e, after, rfl, hbefore, hmem⟩ := Table.exists_repeated hdistinct
  exact ⟨before, e, after, rfl, hmem,
    (decode_eq_takeIn hobject).trans (takeIn_of_repeated h hbefore hmem)⟩

end

/-- A document that is written lists what was written, under any names. -/
theorem isObject_toText {ms : List (String × Account)} (h : (ms.map Prod.fst).Nodup) :
    IsObject Account.decoder.read (Value.object (ms.map fun m => (m.1, m.2.toValue))).toText ms := by
  have hcollect (acc ms : List (String × Account)) : Decoder.takeIn Except.ok
      (fun t name a => Except.ok (t ++ [(name, a)])) acc ms = Except.ok (ε := Json.Error) (acc ++ ms) := by
    induction ms generalizing acc with
    | nil =>
      rw [List.append_nil]
      rfl
    | cons m ms ih =>
      rw [List.append_cons]
      exact ih (acc ++ [m])
  have hreads : (Decoder.entries "" Except.ok Account.decoder []
      fun t name a => Except.ok (t ++ [(name, a)])).Reads
      (Value.object (ms.map fun m => (m.1, m.2.toValue))) (ms.map fun m => m) :=
    Decoder.reads_table Except.ok Account.decoder _ Prod.fst (fun m => m.2.toValue) (fun m => m)
      (fun _ => rfl) (fun m => m.2.reads_account) (fun _ _ _ => rfl) h
  obtain ⟨ms', hobject⟩ := Decoder.exists_isObject hreads.decode
  have hsame :=
    hreads.decode.symm.trans (Decoder.decode_of_isObject Account.consumes_decoder hobject)
  rw [hcollect, List.nil_append, List.map_id'] at hsame
  obtain rfl := Except.ok.inj hsame
  exact hobject

/-- Names that differ by letter case denote one address. -/
theorem address_of_toLower {name name' : String} {a a' : Address}
    (h : HexText.parseFixed 20 name = .ok a) (h' : HexText.parseFixed 20 name' = .ok a')
    (hsame : name.toList.map Char.toLower = name'.toList.map Char.toLower) : a = a' := by
  have hlower {name : String} {a : Address} (h : HexText.parseFixed 20 name = .ok a) :
      HexText.parseFixed 20 (String.ofList (name.toList.map Char.toLower)) = .ok a := by
    unfold HexText.parseFixed HexText.parseLoose at h ⊢
    cases hbytes : Hex.Loose.decode (.exactly 20) name with
    | error e =>
      rw [hbytes] at h
      cases h
    | ok b => rwa [Hex.Loose.decode_toLower hbytes, ← hbytes]
  have hboth := (hlower h).symm.trans ((congrArg _ (congrArg _ hsame)).trans (hlower h'))
  exact Except.ok.inj hboth

/-- A document is read as the accounts that its members list, in their order and each under an address
of its own, where lookup finds it. If all names and accounts are read, it is refused exactly if two names
denote one address, in letters of either case. -/
theorem decode_keeps_order (text : String) :
    (∀ as, decode text = .ok as → ∃ ms, IsObject Account.decoder.read text ms ∧
      List.Forall₂ Lists ms as ∧ as.Distinct ∧ ∀ e ∈ as, as.get? e.1 = some e.2) ∧
    (∀ ms es, IsObject Account.decoder.read text ms → List.Forall₂ Lists ms es →
      (decode text = .ok es ↔ Distinct es) ∧
      ((∃ fault, decode text = .error fault) ↔ ¬ Distinct es)) ∧
    ∀ m m' e e', Lists m e → Lists m' e' →
      m.1.toList.map Char.toLower = m'.1.toList.map Char.toLower → e.1 = e'.1 := by
  have hread (as : Accounts) (h : decode text = .ok as) : as.Distinct :=
    Decoder.ensures_decode distinct_of_decoder h
  refine ⟨fun as h => ?lists, fun ms es hobject hlists =>
    ⟨⟨hread es, decode_of_distinct hobject hlists⟩, ?refused, fun hdistinct => ?repeated⟩,
    fun m m' e e' hm hm' => address_of_toLower hm.address hm'.address⟩
  case lists =>
    obtain ⟨ms, hobject⟩ := Decoder.exists_isObject h
    rw [decode_eq_takeIn hobject] at h
    have hnil : Accounts.Distinct [] := List.nodup_nil
    obtain ⟨es, hlists, rfl, hdistinct⟩ := lists_of_takeIn hnil h
    exact ⟨ms, hobject, hlists, hdistinct, fun e he => Table.get?_of_mem hdistinct he⟩
  case refused =>
    rintro ⟨fault, hfault⟩ hdistinct
    rw [decode_of_distinct hobject hlists hdistinct] at hfault
    cases hfault
  case repeated =>
    obtain ⟨_, _, _, -, -, hfault⟩ := exists_duplicate hobject hlists hdistinct
    exact ⟨_, hfault⟩

/-! ### A document -/

def listed : Account := ⟨[], 5, 0, .empty⟩

def owner : Address := FixedBytes.ofNat 20 0xAB

/-- Two names of one address. -/
def twice : List (String × Account) :=
  [("0x00000000000000000000000000000000000000ab", listed),
    ("0x00000000000000000000000000000000000000aB", listed)]

theorem lists_twice : List.Forall₂ Lists twice [(owner, listed), (owner, listed)] :=
  .cons ⟨by decide +kernel, rfl⟩ (.cons ⟨by decide +kernel, rfl⟩ .nil)

/-- One letter differs in its case, and the document is refused. -/
theorem decode_keeps_order_twice :
    IsObject Account.decoder.read (Value.object (twice.map fun m => (m.1, m.2.toValue))).toText twice ∧
    List.Forall₂ Lists twice [(owner, listed), (owner, listed)] ∧
    ∃ fault, decode (Value.object (twice.map fun m => (m.1, m.2.toValue))).toText = .error fault := by
  have hobject := isObject_toText (show (twice.map Prod.fst).Nodup by decide)
  have hrefused := ((decode_keeps_order _).2.1 _ _ hobject lists_twice).2
  exact ⟨hobject, lists_twice, hrefused.mpr (by decide)⟩

end Accounts

end VectorReplay
