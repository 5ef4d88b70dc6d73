import VectorReplay.Proofs.Block.Encoding
import VectorReplay.Proofs.Seed

/-!
What seeding reports on a node that accepts every call, and which blocks it warns of: the chain ids
of a block are compared with that of its first transaction, if that declares one.
-/
namespace VectorReplay

variable {σ α β γ : Type}

/-- No call fails, whatever the state is. -/
def Node.Accepting (node : Node σ) : Prop :=
  ∀ c s, ∃ reply s', node.answer c s = (.ok reply, s')

/-! ### Reports of stages -/

namespace Stage

/-- The stage ends well, and these are the reports that it adds to any run. -/
def Announces (m : Stage σ α) (reports : List Report) : Prop :=
  ∀ run, ∃ a run', m run = (.ok a, run') ∧ run'.reports = run.reports ++ reports

theorem announces_pure (a : α) : (pure a : Stage σ α).Announces [] :=
  fun run => ⟨a, run, rfl, (List.append_nil _).symm⟩

theorem announces_tell (reports : List Report) : (tell reports : Stage σ Unit).Announces reports :=
  fun run => ⟨(), _, tell_apply reports run, rfl⟩

theorem announces_perform {node : Node σ} (accepting : node.Accepting) (c : Call) :
    (perform node c).Announces [] := by
  intro run
  obtain ⟨reply, s, h⟩ := accepting c run.node
  exact ⟨reply, _, perform_of_answer h, (List.append_nil _).symm⟩

theorem Announces.bind {m : Stage σ α} {f : α → Stage σ β} {as bs : List Report}
    (hm : m.Announces as) (hf : ∀ a, (f a).Announces bs) : (m >>= f).Announces (as ++ bs) := by
  intro run
  obtain ⟨a, run₁, h₁, has⟩ := hm run
  obtain ⟨b, run₂, h₂, hbs⟩ := hf a run₁
  refine ⟨b, run₂, ?_, ?_⟩
  · rw [bind_of_ok h₁, h₂]
  · rw [hbs, has, List.append_assoc]

theorem announces_forM {f : γ → Stage σ PUnit} {reports : γ → List Report}
    (h : ∀ c, (f c).Announces (reports c)) (cs : List γ) :
    (cs.forM f).Announces (cs.flatMap reports) := by
  induction cs with
  | nil => exact announces_pure _
  | cons c cs ih =>
    rw [List.flatMap_cons]
    exact (h c).bind fun _ => ih

end Stage

/-! ### Chain ids of a block -/

namespace Block

/-- Two transactions declare different chain ids. -/
def Conflicting (b : Block) : Prop :=
  ∃ t ∈ b.transactions, ∃ u ∈ b.transactions, ∃ c d,
    t.chainId = some c ∧ u.chainId = some d ∧ c ≠ d

/-- The first transaction agrees with itself, so that the later ones are all that count. -/
theorem conflictingChainIds_ne_nil {b : Block} {c : UInt64} (h : b.chainId = some c) :
    b.conflictingChainIds ≠ [] ↔ ∃ t ∈ b.transactions, ∃ d, t.chainId = some d ∧ d ≠ c := by
  obtain ⟨header, transactions⟩ := b
  cases transactions with
  | nil => cases h
  | cons first rest =>
    have hfirst : first.chainId = some c := h
    have hrest : ((first :: rest).zipIdx.drop 1).map Prod.fst = rest := by
      rw [List.map_drop, List.zipIdx_map_fst, List.drop_one, List.tail_cons]
    simp only [conflictingChainIds, h, ne_eq, List.filterMap_eq_nil_iff, not_forall]
    constructor
    · rintro ⟨⟨t, i⟩, hmem, hsome⟩
      have ht : t ∈ rest := hrest ▸ List.mem_map_of_mem hmem
      cases hd : t.chainId with
      | none => simp [hd] at hsome
      | some d =>
        refine ⟨t, List.mem_cons_of_mem _ ht, d, hd, fun hdc => ?_⟩
        simp [hd, hdc] at hsome
    · rintro ⟨t, ht, d, hd, hdc⟩
      have ht : t ∈ rest := by
        rcases List.mem_cons.mp ht with rfl | ht
        · exact absurd (Option.some.inj (hd.symm.trans hfirst)) hdc
        · exact ht
      rw [← hrest] at ht
      obtain ⟨e, hmem, rfl⟩ := List.mem_map.mp ht
      exact ⟨e, hmem, by simp [hd, hdc]⟩

theorem conflicting_iff {b : Block} {c : UInt64} (h : b.chainId = some c) :
    b.Conflicting ↔ b.conflictingChainIds ≠ [] := by
  rw [conflictingChainIds_ne_nil h]
  constructor
  · rintro ⟨t, ht, u, hu, d, e, hd, he, hne⟩
    by_cases hdc : d = c
    · exact ⟨u, hu, e, he, fun hec => hne (hdc.trans hec.symm)⟩
    · exact ⟨t, ht, d, hd, hdc⟩
  · rintro ⟨t, ht, d, hd, hdc⟩
    obtain ⟨first, hfirst, hc⟩ := Option.bind_eq_some_iff.mp h
    exact ⟨t, ht, first, List.mem_of_head? hfirst, d, c, hd, hc, hdc⟩

end Block

/-! ### Reports of seeding -/

namespace Seed

open Stage

def conflictReport (c : UInt64) (e : Nat × UInt64) : Report :=
  ⟨.warning, "Transaction " ++ toString (e.1 + 1) ++ " declares chain id " ++
    toString e.2.toNat ++ ", but the block is replayed with chain id " ++ toString c.toNat⟩

/-- One warning for each transaction whose chain id is not that of the first. -/
def conflictReports (b : Block) : List Report :=
  match b.chainId with
  | none => []
  | some c => b.conflictingChainIds.map (conflictReport c)

variable {node : Node σ}

theorem conflictReports_ne_nil {b : Block} : conflictReports b ≠ [] ↔
    (∃ first ∈ b.transactions.head?, first.chainId.isSome) ∧ b.Conflicting := by
  unfold conflictReports
  cases hc : b.chainId with
  | none =>
    have hundeclared : ¬ ∃ first ∈ b.transactions.head?, first.chainId.isSome := by
      rintro ⟨first, hfirst, hsome⟩
      rw [Option.bind_eq_none_iff.mp hc first hfirst] at hsome
      cases hsome
    exact iff_of_false (fun hne => hne rfl) fun h => hundeclared h.1
  | some c =>
    obtain ⟨first, hfirst, hdeclared⟩ := Option.bind_eq_some_iff.mp hc
    have hsome : ∃ first ∈ b.transactions.head?, first.chainId.isSome :=
      ⟨first, hfirst, hdeclared ▸ rfl⟩
    rw [Block.conflicting_iff hc, and_iff_right hsome, ne_eq, List.map_eq_nil_iff]

theorem exists_warning_iff {b : Block} : (∃ r ∈ conflictReports b, r.level = .warning) ↔
    conflictReports b ≠ [] := by
  have hlevel : ∀ r ∈ conflictReports b, r.level = .warning := by
    unfold conflictReports
    cases b.chainId with
    | none => simp
    | some c =>
      intro r hr
      obtain ⟨e, -, rfl⟩ := List.mem_map.mp hr
      rfl
  constructor
  · rintro ⟨r, hr, -⟩
    exact List.ne_nil_of_mem hr
  · intro hne
    obtain ⟨r, hr⟩ := List.exists_mem_of_ne_nil _ hne
    exact ⟨r, hr, hlevel r hr⟩

theorem announces_chainId (accepting : node.Accepting) (b : Block) :
    (chainId node b).Announces (conflictReports b) := by
  unfold chainId conflictReports
  cases b.chainId with
  | none => exact announces_pure _
  | some c =>
    have hreports := announces_forM (σ := σ) (fun e => announces_tell [conflictReport c e])
      b.conflictingChainIds
    rw [← List.map_eq_flatMap] at hreports
    exact (announces_perform accepting _).bind fun _ => hreports

theorem announces_block (crypto : Crypto) (accepting : node.Accepting) (b : Block) :
    (block crypto node b).Announces (conflictReports b ++ [contextReport crypto b]) := by
  have hfee : (baseFee node b.header.baseFee).Announces [] := by
    cases b.header.baseFee with
    | none => exact announces_pure _
    | some fee => exact announces_perform accepting _
  rw [block_eq]
  refine (announces_chainId accepting b).bind fun _ => ?_
  refine (announces_perform accepting _).bind fun _ => hfee.bind fun _ => ?_
  exact (announces_perform accepting _).bind fun _ => announces_tell _

/-- The report on the context is none of the warnings. -/
theorem block_warns (crypto : Crypto) (accepting : node.Accepting) (b : Block) (s : σ) :
    (block crypto node b (Run.start s)).1 = .ok () ∧
    ((∃ r ∈ (block crypto node b (Run.start s)).2.reports, r.level = .warning) ↔
      conflictReports b ≠ []) := by
  obtain ⟨_, run, hrun, hreports⟩ := announces_block crypto accepting b (Run.start s)
  rw [hrun, hreports, Run.start, List.nil_append, ← exists_warning_iff]
  refine ⟨rfl, ?_, ?_⟩
  · rintro ⟨r, hr, hwarning⟩
    rcases List.mem_append.mp hr with hr | hr
    · exact ⟨r, hr, hwarning⟩
    · rw [List.mem_singleton.mp hr] at hwarning
      cases hwarning
  · rintro ⟨r, hr, hwarning⟩
    exact ⟨r, List.mem_append_left _ hr, hwarning⟩

/-- Seeding the context of a block goes well on a node that accepts every call. It warns exactly if
the first transaction declares a chain id and two transactions declare different ones. -/
theorem block_warns_iff (crypto : Crypto) (accepting : node.Accepting) (b : Block) (s : σ) :
    (block crypto node b (Run.start s)).1 = .ok () ∧
    ((∃ r ∈ (block crypto node b (Run.start s)).2.reports, r.level = .warning) ↔
      (∃ first ∈ b.transactions.head?, first.chainId.isSome) ∧ b.Conflicting) := by
  rw [← conflictReports_ne_nil]
  exact block_warns crypto accepting b s

end Seed

/-! ### Blocks with and without a chain id in front -/

namespace Undeclared

/-- A node without a state that accepts every call. -/
def obliging : Node Unit where
  answer
    | .balance _, s | .transactionCount _, s => (.ok (0 : Word), s)
    | .code _, s => (.ok ([] : Bytes), s)
    | .storage .., s | .submit _, s => (.ok (FixedBytes.zero 32), s)
    | .receipt _, s => (.ok (none : Option Receipt), s)
    | .setCode .., s | .setBalance .., s | .setNonce .., s | .setStorage .., s | .setChainId _, s
    | .setCoinbase _, s | .setNextBaseFee _, s | .setGasLimit _, s => (.ok (), s)

theorem obliging_accepting : obliging.Accepting := by
  intro c s
  cases c <;> exact ⟨_, _, rfl⟩

/-- A `v` of 27 declares no chain id, 37 declares one and 39 two. -/
def transaction (v : UInt8) : Transaction.Form :=
  .legacy [] (List.replicate 5 [0x80]) [v] (List.replicate 2 [0x80])

def form (vs : List UInt8) : Block.Form where
  header := List.replicate 2 [] ++ [List.replicate 20 0] ++ List.replicate 12 []
  transactions := vs.map transaction
  rest := []

def header : Header where
  coinbase := FixedBytes.zero 20
  number := 0
  gasLimit := 0
  gasUsed := 0
  timestamp := 0
  baseFee := none
  hardfork := .berlin

def block (vs : List UInt8) : Block where
  header := header
  transactions := (vs.map transaction).map Transaction.Form.transaction

theorem block_conflicting {vs : List UInt8} (h₁ : 37 ∈ vs) (h₂ : 39 ∈ vs) :
    (block vs).Conflicting :=
  ⟨_, List.mem_map_of_mem (List.mem_map_of_mem h₁), _, List.mem_map_of_mem (List.mem_map_of_mem h₂),
    1, 2, rfl, rfl, by decide⟩

theorem form_fits : (form [27, 37, 39]).Fits where
  count := by decide
  coinbase := by decide
  words := by decide
  timestamp := by decide
  transactions := by
    have hempty : ∀ x ∈ List.replicate 7 [0x80], Rlp.WellFormed x :=
      fun x hx => List.eq_of_mem_replicate hx ▸ Block.Form.wellFormed_empty.1
    intro t ht
    simp only [form, List.map_cons, List.map_nil, List.mem_cons, List.not_mem_nil, or_false] at ht
    rcases ht with rfl | rfl | rfl
    all_goals exact .legacy rfl rfl (by decide) (by decide) hempty
  rest := by simp [form]
  size := by decide_cbv

theorem form_narrow : (form [27, 37, 39]).Narrow where
  timestamp := by decide
  transactions := by decide

theorem says_header (vs : List UInt8) : (form vs).Says header where
  coinbase := rfl
  number := rfl
  gasLimit := rfl
  gasUsed := rfl
  timestamp := rfl
  baseFee := rfl
  hardfork := rfl

theorem block_decoded : Block.decode (form [27, 37, 39]).encode = .ok (block [27, 37, 39]) :=
  form_fits.decode_encode form_narrow (says_header _)

end Undeclared

namespace Seed

open Undeclared

/-- The undeclared chain id stands between two that differ. -/
theorem block_warns_iff_between : obliging.Accepting ∧ (∃ r ∈
    (Seed.block .ethereum obliging (Undeclared.block [37, 27, 39]) (Run.start ())).2.reports,
      r.level = .warning) := by
  refine ⟨obliging_accepting, ?_⟩
  refine (block_warns_iff .ethereum obliging_accepting (Undeclared.block [37, 27, 39]) ()).2.mpr ?_
  exact ⟨⟨_, rfl, rfl⟩, block_conflicting (by decide) (by decide)⟩

/-- If the undeclared chain id stands in front, nobody is warned of the two that differ. -/
theorem not_block_warns_undeclared : obliging.Accepting ∧
    Block.decode (form [27, 37, 39]).encode = .ok (Undeclared.block [27, 37, 39]) ∧
    (Undeclared.block [27, 37, 39]).Conflicting ∧ ¬ ∃ r ∈
      (Seed.block .ethereum obliging (Undeclared.block [27, 37, 39]) (Run.start ())).2.reports,
        r.level = .warning := by
  refine ⟨obliging_accepting, block_decoded, block_conflicting (by decide) (by decide), ?_⟩
  rw [(block_warns .ethereum obliging_accepting (Undeclared.block [27, 37, 39]) ()).2]
  exact fun hne => hne rfl

end Seed

end VectorReplay
