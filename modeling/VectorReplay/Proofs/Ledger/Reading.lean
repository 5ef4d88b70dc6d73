import VectorReplay.Ledger.Transfer
import VectorReplay.Proofs.Block.Canonical
import VectorReplay.Proofs.Rlp.Reader

/-!
What a transfer is read from: the nine fields of the list that its encoding begins with, each one
found by its position. Of `v` only the low 64 bits count.
-/
namespace VectorReplay

/-- A number that is spelled as it would be written is the value of what is spelled. -/
theorem Block.WordAt.of_encodeString {b s : Bytes} {xs : List Bytes} {i : Nat} {w : Word}
    (h : WordAt xs i w) (list : Rlp.IsList b xs) (hx : xs[i]? = some (Rlp.encodeString s)) :
    s.length ≤ 32 ∧ w = Word.ofBytes s := by
  obtain ⟨held, ⟨x, hget, hstring⟩, hlen, rfl⟩ := h
  rw [hget] at hx
  cases hx
  obtain rfl := hstring.unique
    (Rlp.isString_encodeString (list.held_lt (List.mem_of_getElem? hget)))
  exact ⟨hlen, rfl⟩

namespace Transfer

open Ledger (Stop)
open Rlp (encodeString)

/-! ### Fields by themselves -/

def stringOf (x : Bytes) : Except Stop Bytes :=
  (Rlp.Reader.stringOf x).mapError fun e => .refused (.encoding e)

def wordOf (x : Bytes) : Except Stop Word := do
  let b ← stringOf x
  if 32 < b.length then throw .aborted else pure (Word.ofBytes b)

def addressOf (x : Bytes) : Except Stop Address := do
  let b ← stringOf x
  match FixedBytes.ofBytes? 20 b with
  | some a => pure a
  | none => throw .aborted

/-- The chain id and the parity that the low 64 bits of a field tell. -/
def chainOf (x : Bytes) : Except Stop (UInt64 × Bool) := do
  let v ← wordOf x
  match splitV v.low64 with
  | none => throw .aborted
  | some split => pure split

def signerOf (crypto : Crypto) (items : List Bytes) (chainId : UInt64) (odd : Bool) (r s : Bytes) :
    Except Stop Address := do
  let r' ← stringOf r
  let s' ← stringOf s
  match signature r' s' with
  | none => throw .aborted
  | some sig =>
    match crypto.recover (message crypto.hash items chainId) sig odd with
    | none => throw (.refused .signature)
    | some sender => pure sender

/-- The transfer that nine fields tell; the gas limit and the data are only signed. -/
def ofFields (crypto : Crypto) (nonce gasPrice gas recipient value data v r s : Bytes) :
    Except Stop Transfer := do
  let nonce' ← wordOf nonce
  let gasPrice' ← wordOf gasPrice
  let recipient' ← addressOf recipient
  let value' ← wordOf value
  let (chainId, odd) ← chainOf v
  let sender ← signerOf crypto [nonce, gasPrice, gas, recipient, value, data] chainId odd r s
  pure {
    nonce := nonce', gasPrice := gasPrice', recipient := recipient', value := value'
    chainId, sender }

/-! ### Reading by position -/

section
variable {list rest x : Bytes} {xs ys : List Bytes} {i : Nat} {α β : Type}

/-- From whatever place in the list, the reading ends so, and again at a place in the list. -/
def Gives (list rest : Bytes) (xs : List Bytes) (m : Reading α) (outcome : Except Stop α) : Prop :=
  ∀ r : Rlp.Reader, r.Tracks list xs rest →
    ∃ r', m r = (outcome, r') ∧ r'.Tracks list xs rest

theorem gives_pure (a : α) : Gives list rest xs (pure a) (.ok a) :=
  fun r h => ⟨r, rfl, h⟩

theorem gives_throw (e : Stop) : Gives list rest xs (throw e : Reading α) (.error e) :=
  fun r h => ⟨r, rfl, h⟩

theorem Gives.bind {m : Reading α} {f : α → Reading β} {o : Except Stop α}
    {g : α → Except Stop β} (hm : Gives list rest xs m o)
    (hf : ∀ a, Gives list rest xs (f a) (g a)) : Gives list rest xs (m >>= f) (o >>= g) := by
  intro r h
  obtain ⟨r₁, hr₁, h₁⟩ := hm r h
  cases o with
  | error e => exact ⟨r₁, bind_of_error hr₁, h₁⟩
  | ok a =>
    obtain ⟨r₂, hr₂, h₂⟩ := hf a r₁ h₁
    exact ⟨r₂, (bind_of_ok hr₁).trans hr₂, h₂⟩

theorem Gives.andThen {m : Reading α} {f : α → Reading β} {a : α} {o : Except Stop β}
    (hm : Gives list rest xs m (.ok a)) (hf : Gives list rest xs (f a) o) :
    Gives list rest xs (m >>= f) o := by
  intro r h
  obtain ⟨r₁, hr₁, h₁⟩ := hm r h
  obtain ⟨r₂, hr₂, h₂⟩ := hf r₁ h₁
  exact ⟨r₂, (bind_of_ok hr₁).trans hr₂, h₂⟩

theorem gives_raw (h : xs[i]? = some x) : Gives list rest xs (raw i) (.ok x) := by
  intro r hr
  obtain ⟨r', hitem, hr'⟩ := hr.item h
  exact ⟨r', by rw [raw, hitem]; rfl, hr'⟩

theorem gives_string (h : xs[i]? = some x) : Gives list rest xs (string i) (stringOf x) := by
  intro r hr
  obtain ⟨r', hitem, hr'⟩ := hr.item h
  exact ⟨r', by rw [string, Rlp.Reader.string, hitem]; rfl, hr'⟩

theorem gives_word (h : xs[i]? = some x) : Gives list rest xs (word i) (wordOf x) := by
  refine (gives_string h).bind fun b => ?_
  split
  · exact gives_throw _
  · exact gives_pure _

theorem gives_address (h : xs[i]? = some x) : Gives list rest xs (address i) (addressOf x) := by
  refine (gives_string h).bind fun b => ?_
  cases FixedBytes.ofBytes? 20 b with
  | some a => exact gives_pure a
  | none => exact gives_throw _

theorem gives_raws {is : List Nat} (h : List.Forall₂ (fun i x => xs[i]? = some x) is ys) :
    Gives list rest xs (is.mapM raw) (.ok ys) := by
  induction h with
  | nil => exact gives_pure _
  | @cons i y is ys hi _ ih =>
    rw [List.mapM_cons]
    exact (gives_raw hi).bind fun y => ih.bind fun ys => gives_pure (y :: ys)

end

/-- Reading by position finds the nine fields of the list. -/
theorem decode_append {list nonce gasPrice gas recipient value data v r s : Bytes}
    (h : Rlp.IsList list [nonce, gasPrice, gas, recipient, value, data, v, r, s])
    (crypto : Crypto) (rest : Bytes) : decode crypto (list ++ rest) =
      ofFields crypto nonce gasPrice gas recipient value data v r s := by
  have hitems : Gives list rest [nonce, gasPrice, gas, recipient, value, data, v, r, s]
      ((List.range 6).mapM raw) (.ok [nonce, gasPrice, gas, recipient, value, data]) :=
    gives_raws (by simp [List.range, List.range.loop])
  have hread : Gives list rest [nonce, gasPrice, gas, recipient, value, data, v, r, s] (read crypto)
      (ofFields crypto nonce gasPrice gas recipient value data v r s) := by
    simp only [ofFields, chainOf, signerOf, bind_assoc]
    refine (gives_word rfl).bind fun nonce' => (gives_word rfl).bind fun gasPrice' => ?_
    refine (gives_address rfl).bind fun recipient' => (gives_word rfl).bind fun value' => ?_
    refine (gives_word rfl).bind fun v' => ?_
    cases splitV v'.low64 with
    | none => exact gives_throw _
    | some split =>
      obtain ⟨chainId, odd⟩ := split
      refine hitems.andThen ?_
      refine (gives_string rfl).bind fun r' => (gives_string rfl).bind fun s' => ?_
      cases signature r' s' with
      | none => exact gives_throw _
      | some sig =>
        dsimp only
        cases crypto.recover _ sig odd with
        | none => exact gives_throw _
        | some sender => exact gives_pure _
  obtain ⟨_, hr, -⟩ := hread _ (Rlp.Reader.tracks_ofBytes h rest)
  exact congrArg Prod.fst hr

/-! ### Values of fields -/

theorem mapError_eq_aborted {α : Type} (o : Except Rlp.Error α) :
    (o.mapError fun e => Stop.refused (.encoding e)) ≠ .error .aborted := by
  cases o <;> simp [Except.mapError]

theorem stringOf_ne_aborted (x : Bytes) : stringOf x ≠ .error .aborted :=
  mapError_eq_aborted _

theorem signature_eq_none_iff {r s : Bytes} :
    signature r s = none ↔ 32 < r.length ∨ 64 < s.length := by
  simp only [signature, ite_eq_left_iff, reduceCtorEq, imp_false, not_not]

/-- The low 64 bits of `v` have to be large enough for a chain id. -/
theorem splitV_eq_none_iff {v : Word} : splitV v.low64 = none ↔ v.toNat % 2 ^ 64 < 35 := by
  have hlow : v.low64.toNat = v.toNat % 2 ^ 64 := UInt64.toNat_ofNat'
  have hbound : (35 : UInt64).toNat = 35 := rfl
  simp [splitV, UInt64.lt_iff_toNat_lt, hlow, hbound]

/-- They are the chain id twice, the parity, and 35. -/
theorem splitV_eq_some_iff {v : Word} {chainId : UInt64} {odd : Bool} :
    splitV v.low64 = some (chainId, odd) ↔
      v.toNat % 2 ^ 64 = 35 + 2 * chainId.toNat + odd.toNat := by
  have hlow : v.low64.toNat = v.toNat % 2 ^ 64 := UInt64.toNat_ofNat'
  have hbound : (35 : UInt64).toNat = 35 := rfl
  by_cases hsmall : v.toNat % 2 ^ 64 < 35
  · rw [splitV_eq_none_iff.mpr hsmall]
    refine ⟨nofun, fun h => ?_⟩
    omega
  have hle : ¬ v.low64 < 35 := by
    rw [UInt64.lt_iff_toNat_lt]
    omega
  have hsub : (v.low64 - 35).toNat = v.toNat % 2 ^ 64 - 35 := by
    rw [UInt64.toNat_sub_of_le _ _ (UInt64.not_lt.mp hle), hlow, hbound]
  have hid : ((v.low64 - 35) / 2).toNat = (v.toNat % 2 ^ 64 - 35) / 2 := by
    rw [UInt64.toNat_div, hsub]
    rfl
  have hdouble : ((v.low64 - 35) / 2 * 2).toNat = (v.toNat % 2 ^ 64 - 35) / 2 * 2 := by
    have hmul := UInt64.toNat_mul ((v.low64 - 35) / 2) 2
    have htwo : (2 : UInt64).toNat = 2 := rfl
    rw [hid, htwo] at hmul
    omega
  have hparity : (v.low64 - 35 - (v.low64 - 35) / 2 * 2).toNat =
      (v.toNat % 2 ^ 64 - 35) % 2 := by
    rw [UInt64.toNat_sub_of_le _ _ (by rw [UInt64.le_iff_toNat_le]; omega), hdouble, hsub]
    omega
  have hone : (v.low64 - 35 - (v.low64 - 35) / 2 * 2 = 1) ↔ (v.toNat % 2 ^ 64 - 35) % 2 = 1 := by
    rw [← UInt64.toNat_inj, hparity]
    rfl
  rw [splitV, if_neg hle]
  simp only [Option.some.injEq, Prod.mk.injEq, hone, ← UInt64.toNat_inj, hid]
  cases odd
  · simp only [decide_eq_false_iff_not, Bool.toNat_false]
    omega
  · simp only [decide_eq_true_eq, Bool.toNat_true]
    omega

section
variable {list x s : Bytes} {xs : List Bytes}

section
variable (h : Rlp.IsList list xs) (hx : x ∈ xs)
include h hx

theorem stringOf_eq_ok_iff : stringOf x = .ok s ↔ x = encodeString s := by
  rw [← h.stringOf_eq_ok_iff hx, stringOf]
  cases Rlp.Reader.stringOf x <;> simp [Except.mapError]

theorem wordOf_eq_ok_iff {w : Word} :
    wordOf x = .ok w ↔ ∃ s, x = encodeString s ∧ s.length ≤ 32 ∧ w = Word.ofBytes s := by
  simp only [wordOf, bind_eq_ok, stringOf_eq_ok_iff h hx]
  refine exists_congr fun s => and_congr_right fun _ => ?_
  split
  next hwide => simp [throw, throwThe, MonadExceptOf.throw, not_le.mpr hwide]
  next hwide => simp [pure, Except.pure, not_lt.mp hwide, eq_comm]

theorem wordOf_eq_aborted_iff :
    wordOf x = .error .aborted ↔ ∃ s, x = encodeString s ∧ 32 < s.length := by
  simp only [wordOf, bind_eq_error, stringOf_ne_aborted, stringOf_eq_ok_iff h hx, false_or]
  refine exists_congr fun s => and_congr_right fun _ => ?_
  split
  next hwide => simp [throw, throwThe, MonadExceptOf.throw, hwide]
  next hwide => simp [pure, Except.pure, hwide]

theorem addressOf_eq_ok_iff {a : Address} : addressOf x = .ok a ↔ x = encodeString a.bytes := by
  simp only [addressOf, bind_eq_ok, stringOf_eq_ok_iff h hx]
  constructor
  · rintro ⟨s, rfl, hs⟩
    by_cases hlen : s.length = 20
    · simp only [FixedBytes.ofBytes?, dif_pos hlen, pure, Except.pure, Except.ok.injEq] at hs
      rw [← hs]
    · simp [FixedBytes.ofBytes?, hlen, throw, throwThe, MonadExceptOf.throw] at hs
  · intro ha
    exact ⟨a.bytes, ha, by rw [FixedBytes.ofBytes?_bytes]; rfl⟩

theorem addressOf_eq_aborted_iff :
    addressOf x = .error .aborted ↔ ∃ s, x = encodeString s ∧ s.length ≠ 20 := by
  simp only [addressOf, bind_eq_error, stringOf_ne_aborted, stringOf_eq_ok_iff h hx, false_or]
  refine exists_congr fun s => and_congr_right fun _ => ?_
  by_cases hlen : s.length = 20
  · simp [FixedBytes.ofBytes?, hlen, pure, Except.pure]
  · simp [FixedBytes.ofBytes?, hlen, throw, throwThe, MonadExceptOf.throw]

theorem chainOf_eq_ok_iff {chainId : UInt64} {odd : Bool} : chainOf x = .ok (chainId, odd) ↔
    ∃ s, x = encodeString s ∧ s.length ≤ 32 ∧
      Bytes.toNat s % 2 ^ 64 = 35 + 2 * chainId.toNat + odd.toNat := by
  simp only [chainOf, bind_eq_ok, wordOf_eq_ok_iff h hx]
  constructor
  · rintro ⟨_, ⟨s, rfl, hlen, rfl⟩, hsplit⟩
    split at hsplit
    next => cases hsplit
    next split hsome =>
      cases hsplit
      rw [splitV_eq_some_iff, Word.toNat_ofBytes hlen] at hsome
      exact ⟨s, rfl, hlen, hsome⟩
  · rintro ⟨s, rfl, hlen, hv⟩
    rw [← Word.toNat_ofBytes hlen, ← splitV_eq_some_iff] at hv
    exact ⟨_, ⟨s, rfl, hlen, rfl⟩, by rw [hv]; rfl⟩

theorem chainOf_eq_aborted_iff : chainOf x = .error .aborted ↔
    ∃ s, x = encodeString s ∧ (s.length ≤ 32 → Bytes.toNat s % 2 ^ 64 < 35) := by
  simp only [chainOf, bind_eq_error, wordOf_eq_aborted_iff h hx, wordOf_eq_ok_iff h hx]
  constructor
  · rintro (⟨s, rfl, wide⟩ | ⟨_, ⟨s, rfl, hlen, rfl⟩, hsplit⟩)
    · exact ⟨s, rfl, fun hlen => absurd hlen (not_le.mpr wide)⟩
    · split at hsplit
      next hnone =>
        rw [splitV_eq_none_iff, Word.toNat_ofBytes hlen] at hnone
        exact ⟨s, rfl, fun _ => hnone⟩
      next => cases hsplit
  · rintro ⟨s, rfl, hlow⟩
    by_cases hlen : s.length ≤ 32
    · have hnone := hlow hlen
      rw [← Word.toNat_ofBytes hlen, ← splitV_eq_none_iff] at hnone
      exact .inr ⟨_, ⟨s, rfl, hlen, rfl⟩, by rw [hnone]; rfl⟩
    · exact .inl ⟨s, rfl, not_le.mp hlen⟩

end

theorem exists_chainOf (h : Rlp.IsList list xs) (hx : encodeString s ∈ xs) (narrow : s.length ≤ 32)
    (high : 35 ≤ Bytes.toNat s % 2 ^ 64) : ∃ c odd, chainOf (encodeString s) = .ok (c, odd) := by
  cases hsplit : splitV (Word.ofBytes s).low64 with
  | none =>
    rw [splitV_eq_none_iff, Word.toNat_ofBytes narrow] at hsplit
    exact absurd high (not_le.mpr hsplit)
  | some split =>
    rw [splitV_eq_some_iff, Word.toNat_ofBytes narrow] at hsplit
    exact ⟨_, _, (chainOf_eq_ok_iff h hx).mpr ⟨s, rfl, narrow, hsplit⟩⟩

theorem signerOf_eq_ok_iff {crypto : Crypto} {items : List Bytes} {chainId : UInt64} {odd : Bool}
    {rb sb : Bytes} {sender : Address} (h : Rlp.IsList list xs) (hr : rb ∈ xs) (hs : sb ∈ xs) :
    signerOf crypto items chainId odd rb sb = .ok sender ↔
      ∃ r s sig, rb = encodeString r ∧ sb = encodeString s ∧ signature r s = some sig ∧
        crypto.recover (message crypto.hash items chainId) sig odd = some sender := by
  simp only [signerOf, bind_eq_ok, stringOf_eq_ok_iff h hr, stringOf_eq_ok_iff h hs]
  constructor
  · rintro ⟨r, rfl, s, rfl, hsig⟩
    split at hsig
    next => cases hsig
    next sig hsome =>
      split at hsig
      next => cases hsig
      next sender' hrecover =>
        cases hsig
        exact ⟨r, s, sig, rfl, rfl, hsome, hrecover⟩
  · rintro ⟨r, s, sig, rfl, rfl, hsome, hrecover⟩
    exact ⟨r, rfl, s, rfl, by rw [hsome]; dsimp only; rw [hrecover]; rfl⟩

theorem signerOf_eq_aborted_iff {crypto : Crypto} {items : List Bytes} {chainId : UInt64}
    {odd : Bool} {rb sb : Bytes} (h : Rlp.IsList list xs) (hr : rb ∈ xs) (hs : sb ∈ xs) :
    signerOf crypto items chainId odd rb sb = .error .aborted ↔
      ∃ r s, rb = encodeString r ∧ sb = encodeString s ∧ (32 < r.length ∨ 64 < s.length) := by
  simp only [signerOf, bind_eq_error, stringOf_ne_aborted, stringOf_eq_ok_iff h hr,
    stringOf_eq_ok_iff h hs, false_or, ← signature_eq_none_iff]
  constructor
  · rintro ⟨r, rfl, s, rfl, hsig⟩
    split at hsig
    next hnone => exact ⟨r, s, rfl, rfl, hnone⟩
    next => split at hsig <;> cases hsig
  · rintro ⟨r, s, rfl, rfl, hnone⟩
    exact ⟨r, rfl, s, rfl, by rw [hnone]; rfl⟩

end

/-! ### Whole encodings -/

/-- Reading stops at a field of an impossible size or at a `v` that is too small; the fields that
are read before are in order. -/
inductive Misfit : List Bytes → Prop
  | gasPrice {nonce price : Bytes} {rest : List Bytes} (wide : 32 < price.length) :
      Misfit (encodeString nonce :: encodeString price :: rest)
  | recipient {nonce price gas target : Bytes} {rest : List Bytes} (narrow : price.length ≤ 32)
      (size : target.length ≠ 20) :
      Misfit (encodeString nonce :: encodeString price :: gas :: encodeString target :: rest)
  | value {nonce price gas target value : Bytes} {rest : List Bytes} (narrow : price.length ≤ 32)
      (size : target.length = 20) (wide : 32 < value.length) :
      Misfit (encodeString nonce :: encodeString price :: gas :: encodeString target ::
        encodeString value :: rest)
  | v {nonce price gas target value data v : Bytes} {rest : List Bytes} (narrow : price.length ≤ 32)
      (size : target.length = 20) (amount : value.length ≤ 32) (low : Bytes.toNat v % 2 ^ 64 < 35) :
      Misfit (encodeString nonce :: encodeString price :: gas :: encodeString target ::
        encodeString value :: data :: encodeString v :: rest)
  | signature {nonce price gas target value data v r s : Bytes} (narrow : price.length ≤ 32)
      (size : target.length = 20) (amount : value.length ≤ 32) (high : 35 ≤ Bytes.toNat v % 2 ^ 64)
      (wide : 32 < r.length ∨ 64 < s.length) :
      Misfit [encodeString nonce, encodeString price, gas, encodeString target, encodeString value,
        data, encodeString v, encodeString r, encodeString s]

theorem decode_of_not_isList {b : Bytes} (h : Rlp.isList b = false) (crypto : Crypto) :
    decode crypto b = .error (.refused (.encoding .expectedList)) := by
  have hitem : (Rlp.Reader.ofBytes b).item 0 = (.error .expectedList, Rlp.Reader.ofBytes b) :=
    if_neg (by rw [Rlp.Reader.ofBytes, h]; nofun)
  have hstring : string 0 (Rlp.Reader.ofBytes b) =
      (.error (.refused (.encoding .expectedList)), Rlp.Reader.ofBytes b) := by
    rw [string, Rlp.Reader.string, hitem]
    rfl
  have hword : word 0 (Rlp.Reader.ofBytes b) =
      (.error (.refused (.encoding .expectedList)), Rlp.Reader.ofBytes b) :=
    bind_of_error hstring
  exact congrArg Prod.fst (bind_of_error hword)

section
variable {crypto : Crypto} {list n p gas t a data vb rb sb : Bytes} {nonce v : Word}

theorem misfit_of_aborted (h : Rlp.IsList list [n, p, gas, t, a, data, vb, rb, sb])
    (number : Block.WordAt [n, p, gas, t, a, data, vb, rb, sb] 0 nonce)
    (last : Block.WordAt [n, p, gas, t, a, data, vb, rb, sb] 6 v)
    (aborted : ofFields crypto n p gas t a data vb rb sb = .error .aborted) :
    Misfit [n, p, gas, t, a, data, vb, rb, sb] := by
  simp only [ofFields, bind_eq_error, Prod.exists] at aborted
  obtain hn | ⟨n', hn, aborted⟩ := aborted
  · obtain ⟨nonce, rfl, wide⟩ := (wordOf_eq_aborted_iff h (by simp)).mp hn
    exact absurd (number.of_encodeString h rfl).1 (not_le.mpr wide)
  obtain ⟨nonce, rfl, -⟩ := (wordOf_eq_ok_iff h (by simp)).mp hn
  obtain hp | ⟨p', hp, aborted⟩ := aborted
  · obtain ⟨price, rfl, wide⟩ := (wordOf_eq_aborted_iff h (by simp)).mp hp
    exact .gasPrice wide
  obtain ⟨price, rfl, narrow, -⟩ := (wordOf_eq_ok_iff h (by simp)).mp hp
  obtain ht | ⟨target, ht, aborted⟩ := aborted
  · obtain ⟨target, rfl, size⟩ := (addressOf_eq_aborted_iff h (by simp)).mp ht
    exact .recipient narrow size
  obtain rfl := (addressOf_eq_ok_iff h (by simp)).mp ht
  obtain ha | ⟨a', ha, aborted⟩ := aborted
  · obtain ⟨value, rfl, wide⟩ := (wordOf_eq_aborted_iff h (by simp)).mp ha
    exact .value narrow target.length_eq wide
  obtain ⟨value, rfl, amount, -⟩ := (wordOf_eq_ok_iff h (by simp)).mp ha
  obtain hv | ⟨c, odd, hv, aborted⟩ := aborted
  · obtain ⟨v, rfl, low⟩ := (chainOf_eq_aborted_iff h (by simp)).mp hv
    exact .v narrow target.length_eq amount (low (last.of_encodeString h rfl).1)
  obtain ⟨v, rfl, -, high⟩ := (chainOf_eq_ok_iff h (by simp)).mp hv
  obtain hs | ⟨sender, hs, aborted⟩ := aborted
  · obtain ⟨r, s, rfl, rfl, wide⟩ := (signerOf_eq_aborted_iff h (by simp) (by simp)).mp hs
    exact .signature narrow target.length_eq amount (by omega) wide
  · cases aborted

theorem aborted_of_misfit (h : Rlp.IsList list [n, p, gas, t, a, data, vb, rb, sb])
    (number : Block.WordAt [n, p, gas, t, a, data, vb, rb, sb] 0 nonce)
    (last : Block.WordAt [n, p, gas, t, a, data, vb, rb, sb] 6 v)
    (misfit : Misfit [n, p, gas, t, a, data, vb, rb, sb]) :
    ofFields crypto n p gas t a data vb rb sb = .error .aborted := by
  have hword {s : Bytes} (hs : encodeString s ∈ [n, p, gas, t, a, data, vb, rb, sb])
      (narrow : s.length ≤ 32) : wordOf (encodeString s) = .ok (Word.ofBytes s) :=
    (wordOf_eq_ok_iff h hs).mpr ⟨s, rfl, narrow, rfl⟩
  have haddress {s : Bytes} (hs : encodeString s ∈ [n, p, gas, t, a, data, vb, rb, sb])
      (size : s.length = 20) : addressOf (encodeString s) = .ok ⟨s, size⟩ :=
    (addressOf_eq_ok_iff h hs).mpr rfl
  have hnumber {s : Bytes} (hs : n = encodeString s) : wordOf n = .ok (Word.ofBytes s) := by
    subst hs
    exact hword (by simp) (number.of_encodeString h rfl).1
  simp only [ofFields, bind_eq_error, Prod.exists]
  cases misfit with
  | gasPrice wide =>
    refine .inr ⟨_, hnumber rfl, .inl ?_⟩
    exact (wordOf_eq_aborted_iff h (by simp)).mpr ⟨_, rfl, wide⟩
  | recipient narrow size =>
    refine .inr ⟨_, hnumber rfl, .inr ⟨_, hword (by simp) narrow, .inl ?_⟩⟩
    exact (addressOf_eq_aborted_iff h (by simp)).mpr ⟨_, rfl, size⟩
  | value narrow size wide =>
    refine .inr ⟨_, hnumber rfl, .inr ⟨_, hword (by simp) narrow, .inr
      ⟨_, haddress (by simp) size, .inl ?_⟩⟩⟩
    exact (wordOf_eq_aborted_iff h (by simp)).mpr ⟨_, rfl, wide⟩
  | v narrow size amount low =>
    refine .inr ⟨_, hnumber rfl, .inr ⟨_, hword (by simp) narrow, .inr
      ⟨_, haddress (by simp) size, .inr ⟨_, hword (by simp) amount, .inl ?_⟩⟩⟩⟩
    exact (chainOf_eq_aborted_iff h (by simp)).mpr ⟨_, rfl, fun _ => low⟩
  | signature narrow size amount high wide =>
    obtain ⟨c, odd, hv⟩ := exists_chainOf h (by simp) (last.of_encodeString h rfl).1 high
    refine .inr ⟨_, hnumber rfl, .inr ⟨_, hword (by simp) narrow, .inr
      ⟨_, haddress (by simp) size, .inr ⟨_, hword (by simp) amount, .inr ⟨c, odd, hv, .inl ?_⟩⟩⟩⟩⟩
    exact (signerOf_eq_aborted_iff h (by simp) (by simp)).mpr ⟨_, _, rfl, rfl, wide⟩

end

theorem decode_eq_aborted_iff {crypto : Crypto} {b : Bytes} {fields : List Bytes} {nonce v : Word}
    (list : Rlp.IsList b fields) (count : fields.length = 9) (number : Block.WordAt fields 0 nonce)
    (last : Block.WordAt fields 6 v) : decode crypto b = .error .aborted ↔ Misfit fields := by
  match fields, count with
  | [n, p, gas, t, a, data, vb, rb, sb], _ =>
  have hdecode := decode_append list crypto []
  rw [List.append_nil] at hdecode
  rw [hdecode]
  exact ⟨misfit_of_aborted list number last, aborted_of_misfit list number last⟩

/-- Who signed the first six fields for a chain: `r` and `s` are the last two. -/
def SignedBy (crypto : Crypto) (fields : List Bytes) (chainId : UInt64) (odd : Bool)
    (sender : Address) : Prop :=
  ∃ r s sig, Block.StringAt fields 7 r ∧ Block.StringAt fields 8 s ∧ signature r s = some sig ∧
    crypto.recover (message crypto.hash (fields.take 6) chainId) sig odd = some sender

/-- The chain id of a transfer is the one in the low 64 bits of its `v`. -/
theorem signedBy_of_decode {crypto : Crypto} {b : Bytes} {fields : List Bytes} {v : Word}
    {x : Transfer} (begins : Rlp.Begins b fields) (count : fields.length = 9)
    (last : Block.WordAt fields 6 v) (h : decode crypto b = .ok x) :
    ∃ odd, v.toNat % 2 ^ 64 = 35 + 2 * x.chainId.toNat + odd.toNat ∧
      SignedBy crypto fields x.chainId odd x.sender := by
  obtain ⟨front, rest, rfl, list⟩ := begins
  match fields, count with
  | [n, p, gas, t, a, data, vb, rb, sb], _ =>
  rw [decode_append list, ofFields] at h
  simp only [bind_eq_ok, Prod.exists] at h
  obtain ⟨n', -, p', -, t', -, a', -, c, odd, hv, sender, hs, h⟩ := h
  obtain ⟨v', rfl, hspelled, hlow⟩ := (chainOf_eq_ok_iff list (by simp)).mp hv
  obtain ⟨r, s, sig, rfl, rfl, hsig, hrecover⟩ :=
    (signerOf_eq_ok_iff list (by simp) (by simp)).mp hs
  cases h
  have hr := Rlp.isString_encodeString (list.held_lt (s := r) (by simp))
  have hs := Rlp.isString_encodeString (list.held_lt (s := s) (by simp))
  refine ⟨odd, ?_, r, s, sig, ⟨_, rfl, hr⟩, ⟨_, rfl, hs⟩, hsig, hrecover⟩
  rw [(last.of_encodeString list rfl).2, Word.toNat_ofBytes hspelled, hlow]

end Transfer

end VectorReplay
