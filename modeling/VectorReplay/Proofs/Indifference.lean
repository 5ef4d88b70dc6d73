import Mathlib.Data.List.Forall2
import VectorReplay.Proofs.Execution
import VectorReplay.Proofs.Lifetime
import VectorReplay.Proofs.Remote.Requests
import VectorReplay.Proofs.TestVector

/-!
What a session does not depend on: the network that a vector records, the blocks after its first one and
what it expects of accounts that are skipped. Sessions on two vectors that differ in nothing else do and
say the same, but for the mention of the network.
-/
namespace VectorReplay

/-! ### Vectors and files -/

/-- Vectors that agree but for the network, the blocks after the first and the contents of accounts
that are skipped. -/
structure TestVector.Alike (skip : SkipList) (v w : TestVector) : Prop where
  pre : v.pre = w.pre
  firstBlock : v.firstBlock = w.firstBlock
  post : List.Forall₂ (fun e f => e.1 = f.1 ∧ (skip.contains e.1 = false → e.2 = f.2)) v.post w.post

theorem TestVector.Alike.block {skip : SkipList} {v w : TestVector} (h : v.Alike skip w) :
    v.block = w.block := by
  rw [TestVector.block, TestVector.block, h.firstBlock]

/-- Directories with one file that holds a vector each; all other files are the same. -/
structure Files.Variants (fs gs : Files) (name : String) (v w : TestVector) : Prop where
  list : fs.list = gs.list
  others : ∀ names, fs.list = .ok names → ∀ n ∈ names, n ≠ name → fs.read n = gs.read n
  left : ∃ text, fs.read name = .ok text ∧ TestVector.decode text = .ok v
  right : ∃ text, gs.read name = .ok text ∧ TestVector.decode text = .ok w

namespace Corpus

theorem read_of_decode {path name text : String} {files : Files} {v : TestVector}
    (hread : files.read name = .ok text) (hdecode : TestVector.decode text = .ok v) :
    (⟨path, files⟩ : Corpus).read name = .ok v := by
  simp only [read, hread, hdecode]
  rfl

/-- What a filter selects is listed. -/
theorem exists_names_of_matching {c : Corpus} {f : Filter} {selected : List String}
    (h : c.matching f = .ok selected) :
    ∃ names, c.files.list = .ok names ∧ ∀ n ∈ selected, n ∈ names := by
  unfold matching at h
  split at h
  next => cases h
  next names hlist =>
    cases h
    refine ⟨names, hlist, fun n hn => ?_⟩
    exact (List.mem_filter.mp (List.mem_mergeSort.mp hn)).1

/-- Two such directories are told apart only where the one file is what the filter selects. -/
theorem load_variants {fs gs : Files} {name : String} {v w : TestVector}
    (h : fs.Variants gs name v w) (path : String) (f : Filter) :
    (⟨path, fs⟩ : Corpus).load f = (⟨path, gs⟩ : Corpus).load f ∨
      (⟨path, fs⟩ : Corpus).load f = .ok v ∧ (⟨path, gs⟩ : Corpus).load f = .ok w := by
  have hmatching : (⟨path, fs⟩ : Corpus).matching f = (⟨path, gs⟩ : Corpus).matching f := by
    rw [matching, matching, h.list]
  unfold load lookup
  rw [← hmatching]
  cases hselected : (⟨path, fs⟩ : Corpus).matching f with
  | error e => exact Or.inl rfl
  | ok selected =>
    match selected, hselected with
    | [], _ => exact Or.inl rfl
    | _ :: _ :: _, _ => exact Or.inl rfl
    | [n], hselected =>
      by_cases hn : n = name
      · obtain ⟨text, hread, hdecode⟩ := h.left
        obtain ⟨text', hread', hdecode'⟩ := h.right
        have hv : (⟨path, fs⟩ : Corpus).read n = .ok v := read_of_decode (hn ▸ hread) hdecode
        have hw : (⟨path, gs⟩ : Corpus).read n = .ok w := read_of_decode (hn ▸ hread') hdecode'
        right
        simp only [bind, Except.bind, hv, hw]
        exact ⟨rfl, rfl⟩
      · obtain ⟨names, hlist, hmem⟩ := exists_names_of_matching hselected
        have hread : (⟨path, fs⟩ : Corpus).read n = (⟨path, gs⟩ : Corpus).read n := by
          simp only [read, h.others names hlist n (hmem n List.mem_cons_self) hn]
        left
        simp only [bind, Except.bind, hread]

end Corpus

/-! ### Stages -/

theorem Verify.accounts_congr {σ : Type} (crypto : Crypto) (node : Node σ) {skip : SkipList}
    {post post' : Accounts} (h : List.Forall₂
      (fun e f => e.1 = f.1 ∧ (skip.contains e.1 = false → e.2 = f.2)) post post') :
    Verify.accounts crypto node skip post = Verify.accounts crypto node skip post' := by
  induction h with
  | nil => rfl
  | @cons e f post post' hef _ ih =>
    obtain ⟨a, x⟩ := e
    obtain ⟨b, y⟩ := f
    obtain ⟨haddress, hcontents⟩ := hef
    dsimp only at haddress hcontents
    subst haddress
    rw [Verify.accounts, Verify.accounts, ih]
    by_cases hskip : skip.contains a = true
    · rw [if_pos hskip, if_pos hskip]
    · rw [hcontents (Bool.eq_false_iff.mpr hskip)]

theorem execute_congr {σ : Type} (crypto : Crypto) (node : Node σ) (patience : Nat)
    {skip : SkipList} {v w : TestVector} (h : v.Alike skip w) (b : Block) :
    execute crypto node patience skip v b = execute crypto node patience skip w b := by
  unfold execute Verify.all
  rw [h.pre, Verify.accounts_congr crypto node h.post]

/-- The same connections with a log of what is sent over them. -/
def Host.logged {ω : Type} (host : Host ω) : Host (ω × List Request) where
  files := host.files
  programs := host.programs
  transport url := (host.transport url).logged
  patience := host.patience
  handlerFault := host.handlerFault

namespace Session

variable {ω α β : Type}

/-! ### Steps that only add to what was said -/

/-- A step that does not look at what was reported and reached before it, and only adds to it. -/
def Appends (m : Step ω α) : Prop :=
  ∀ world process, ∃ r world' process' reports milestones, ∀ rs ms,
    m ⟨world, process, rs, ms⟩ = (r, ⟨world', process', rs ++ reports, ms ++ milestones⟩)

theorem appends_pure (a : α) : Appends (pure a : Step ω α) := by
  intro world process
  refine ⟨.ok a, world, process, [], [], fun rs ms => ?_⟩
  rw [List.append_nil, List.append_nil]
  rfl

theorem appends_throw (f : Fault) : Appends (throw f : Step ω α) := by
  intro world process
  refine ⟨.error f, world, process, [], [], fun rs ms => ?_⟩
  rw [List.append_nil, List.append_nil]
  rfl

theorem Appends.bind {m : Step ω α} {f : α → Step ω β} (hm : Appends m)
    (hf : ∀ a, Appends (f a)) : Appends (m >>= f) := by
  intro world process
  obtain ⟨r, world₁, process₁, reports₁, milestones₁, hr⟩ := hm world process
  cases r with
  | error e => exact ⟨.error e, world₁, process₁, reports₁, milestones₁, fun rs ms =>
      bind_of_error (hr rs ms)⟩
  | ok a =>
    obtain ⟨r, world₂, process₂, reports₂, milestones₂, hr₂⟩ := hf a world₁ process₁
    refine ⟨r, world₂, process₂, reports₁ ++ reports₂, milestones₁ ++ milestones₂, fun rs ms => ?_⟩
    rw [bind_of_ok (hr rs ms), hr₂, List.append_assoc, List.append_assoc]

theorem Appends.tryCatch {m : Step ω α} {g : Fault → Step ω α} (hm : Appends m)
    (hg : ∀ f, Appends (g f)) : Appends (tryCatch m g) := by
  intro world process
  obtain ⟨r, world₁, process₁, reports₁, milestones₁, hr⟩ := hm world process
  cases r with
  | ok a => exact ⟨.ok a, world₁, process₁, reports₁, milestones₁, fun rs ms =>
      tryCatch_of_ok (hr rs ms)⟩
  | error f =>
    obtain ⟨r, world₂, process₂, reports₂, milestones₂, hr₂⟩ := hg f world₁ process₁
    refine ⟨r, world₂, process₂, reports₁ ++ reports₂, milestones₁ ++ milestones₂, fun rs ms => ?_⟩
    rw [tryCatch_of_error (hr rs ms), hr₂, List.append_assoc, List.append_assoc]

theorem appends_report (level : Level) (text : String) :
    Appends (report level text : Step ω Unit) := by
  intro world process
  refine ⟨.ok (), world, process, [⟨level, text⟩], [], fun rs ms => ?_⟩
  rw [List.append_nil]
  rfl

theorem appends_reach (m : Milestone) : Appends (reach m : Step ω Unit) := by
  intro world process
  refine ⟨.ok (), world, process, [], [m], fun rs ms => ?_⟩
  rw [List.append_nil]
  rfl

theorem appends_ofError (r : Except Error α) : Appends (ofError r : Step ω α) := by
  cases r with
  | error e => exact appends_throw _
  | ok a => exact appends_pure a

/-- The process may be replaced. -/
theorem appends_keep (p : NodeProcess) :
    Appends (modify fun progress => { progress with process := some p } : Step ω PUnit) := by
  intro world process
  refine ⟨.ok ⟨⟩, world, some p, [], [], fun rs ms => ?_⟩
  rw [List.append_nil, List.append_nil]
  rfl

theorem appends_forM {γ : Type} {g : γ → Step ω PUnit} (h : ∀ c, Appends (g c)) (cs : List γ) :
    Appends (cs.forM g) := by
  induction cs with
  | nil => exact appends_pure _
  | cons c cs ih => exact (h c).bind fun _ => ih

/-! ### The steps of a session -/

section
variable (crypto : Crypto) (host : Host ω) (s : Settings)

theorem appends_watchSignals (p : NodeProcess) : Appends (watchSignals host s p) := by
  unfold watchSignals
  split
  · exact (appends_ofError _).bind fun p => (appends_keep p).bind fun _ => appends_pure p
  · exact appends_pure p

theorem appends_connect (url : String) : Appends (connect host url) := by
  intro world process
  obtain ⟨r, remote, hconnect⟩ :
      ∃ r remote, Remote.connect (host.transport url) world = (r, remote) := ⟨_, _, rfl⟩
  refine ⟨r.map fun _ => remote, remote.world, process, [], [.call Remote.probe], fun rs ms => ?_⟩
  unfold connect
  rw [bind_of_ok (get_apply _)]
  simp only [hconnect, List.append_nil]
  cases r <;> rfl

theorem appends_replay (v : TestVector) (b : Block) (remote : Remote ω) :
    Appends (replay crypto host s v b remote) := by
  intro world process
  obtain ⟨r, run, hrun⟩ : ∃ r run, execute crypto (Remote.node (host.transport s.launch.url))
    host.patience s.skip v b (Run.start remote) = (r, run) := ⟨_, _, rfl⟩
  refine ⟨r, run.node.world, process, run.reports,
    run.exchanges.map fun x => .call x.call.method, fun rs ms => ?_⟩
  unfold replay
  simp only [hrun]
  cases r <;> rfl

theorem appends_guarded (v : TestVector) (b : Block) (p : NodeProcess) :
    Appends (guarded crypto host s v b p) := by
  refine (appends_watchSignals host s p).bind fun p => ?_
  refine (appends_report _ _).bind fun _ => ?_
  refine (appends_ofError _).bind fun _ => ?_
  refine (appends_reach _).bind fun _ => ?_
  refine (appends_connect host _).bind fun remote => ?_
  refine (appends_replay crypto host s v b remote).bind fun result => ?_
  exact (appends_forM (fun _ => appends_report _ _) _).bind fun _ => appends_pure _

theorem appends_release (f : Fault) : Appends (release f : Step ω α) := by
  intro world process
  cases process with
  | none =>
    refine ⟨.error f, world, none, [], [], fun rs ms => ?_⟩
    rw [List.append_nil, List.append_nil]
    rfl
  | some p =>
    refine ⟨.error f, world, some p.stop.2, [], if p.stop.1 then [.killed] else [], fun rs ms => ?_⟩
    rw [List.append_nil]
    rfl

/-- What is left of a session once the vector was loaded and its network mentioned. -/
def proceed (v : TestVector) (b : Block) : Step ω Session := do
  let p ← ofError (NodeProcess.start host.programs s.launch (arguments s b))
  modify fun progress => { progress with process := some p }
  reach (.started (arguments s b))
  tryCatch (guarded crypto host s v b p) release

theorem appends_proceed (v : TestVector) (b : Block) : Appends (proceed crypto host s v b) := by
  refine (appends_ofError _).bind fun p => ?_
  refine (appends_keep p).bind fun _ => ?_
  refine (appends_reach _).bind fun _ => ?_
  exact (appends_guarded crypto host s v b p).tryCatch fun f => appends_release f

theorem proceed_congr {v w : TestVector} (h : v.Alike s.skip w) (b : Block) :
    proceed crypto host s v b = proceed crypto host s w b := by
  unfold proceed guarded replay
  simp only [execute_congr crypto _ _ h]

/-- What is said of the network of a vector. -/
def networkReports (v : TestVector) (fork : Hardfork) : List Report :=
  match v.network with
  | none => []
  | some network =>
    if Hardfork.sameLetters network fork.name then []
    else [⟨.debug, "The fixture network is `" ++ network ++ "`, launching anvil with `" ++
      fork.name ++ "`"⟩]

theorem mentionNetwork_apply (v : TestVector) (fork : Hardfork) (p : Progress ω) :
    mentionNetwork v fork p =
      (.ok (), { p with reports := p.reports ++ networkReports v fork }) := by
  unfold mentionNetwork networkReports
  cases v.network with
  | none => rw [List.append_nil]; rfl
  | some network =>
    dsimp only
    split
    · rw [List.append_nil]; rfl
    · rfl

/-- What is said of a vector that was loaded. -/
def loadedReport (v : TestVector) (b : Block) : Report :=
  ⟨.info, "Loaded `" ++ s.testName ++ "` from " ++ s.corpus ++ ": " ++
    toString v.pre.length ++ " pre-state accounts, " ++ toString b.transactions.length ++
    " transactions, " ++ toString v.post.length ++ " post-state accounts"⟩

theorem start_bind (v : TestVector) (b : Block) :
    (start host s v b >>= fun p => tryCatch (guarded crypto host s v b p) release) =
      mentionNetwork v (s.forkFor b) >>= fun _ => proceed crypto host s v b := by
  unfold start proceed
  simp only [bind_assoc, pure_bind]
  rfl

/-- A session on a vector that can be found. -/
theorem run_of_load {v : TestVector} (h : (⟨s.corpus, host.files s.corpus⟩ : Corpus).load
    ⟨s.testName, s.folder⟩ = .ok v) (world : ω) : run crypto host s (.start world) =
      match v.block with
      | .error e => (.error (.failed (.block e)), .start world)
      | .ok b =>
        if b.transactions.isEmpty then (.error (.failed .emptyBlock),
          ⟨world, none, [loadedReport s v b], [.loaded v b]⟩)
        else proceed crypto host s v b ⟨world, none,
          [loadedReport s v b] ++ networkReports v (s.forkFor b), [.loaded v b]⟩ := by
  unfold run
  cases hb : v.block with
  | error e =>
    have hload : load host s (.start world) = (.error (.failed (.block e)), .start world) := by
      unfold load
      simp only [h, ofError, pure_bind, hb]
      rfl
    rw [bind_of_error hload]
  | ok b =>
    have hload : load host s (.start world) =
        (.ok (v, b), ⟨world, none, [loadedReport s v b], [.loaded v b]⟩) := by
      unfold load
      simp only [h, ofError, pure_bind, hb]
      rfl
    rw [bind_of_ok hload]
    dsimp only
    split
    · rfl
    · rw [start_bind, bind_of_ok (mentionNetwork_apply v _ _)]

/-- Without the files, a session cannot be told from another one. -/
theorem run_congr_files {files : String → Files} (h : (⟨s.corpus, host.files s.corpus⟩ : Corpus).load
    ⟨s.testName, s.folder⟩ = (⟨s.corpus, files s.corpus⟩ : Corpus).load ⟨s.testName, s.folder⟩) :
    run crypto host s = run crypto { host with files } s := by
  have hload : load host s = load { host with files } s := by
    unfold load
    simp only [h]
  unfold run
  rw [hload]
  rfl

end

/-! ### Two sessions -/

/-- What a session sends, in order. -/
def requests (crypto : Crypto) (host : Host ω) (s : Settings) (world : ω) : List Request :=
  (run crypto host.logged s (.start (world, []))).2.world.2

def Milestone.isLoaded : Milestone → Bool
  | .loaded _ _ => true
  | _ => false

/-- The ends of two sessions that are told apart only by the vectors that they loaded and by what was
said of the networks of those. -/
structure Indistinct (s : Settings) (v w : TestVector) (out out' : Except Fault Session × Progress ω) :
    Prop where
  result : out.1 = out'.1
  world : out.2.world = out'.2.world
  process : out.2.process = out'.2.process
  milestones : out.2.milestones.filter (fun m => !m.isLoaded) =
    out'.2.milestones.filter fun m => !m.isLoaded
  reports : out.2.reports = out'.2.reports ∨ ∃ b before after,
    out.2.reports = before ++ networkReports v (s.forkFor b) ++ after ∧
    out'.2.reports = before ++ networkReports w (s.forkFor b) ++ after

theorem Indistinct.refl {s : Settings} {v w : TestVector} (out : Except Fault Session × Progress ω) :
    Indistinct s v w out out :=
  ⟨rfl, rfl, rfl, rfl, .inl rfl⟩

theorem indistinct_run (crypto : Crypto) (host : Host ω) (files : String → Files) (s : Settings)
    {v w : TestVector} {name : String}
    (variants : (host.files s.corpus).Variants (files s.corpus) name v w) (alike : v.Alike s.skip w)
    (world : ω) : Indistinct s v w (run crypto host s (.start world))
      (run crypto { host with files } s (.start world)) := by
  rcases Corpus.load_variants variants s.corpus ⟨s.testName, s.folder⟩ with hload | ⟨hv, hw⟩
  · rw [← run_congr_files crypto host s hload]
    exact .refl _
  · rw [run_of_load crypto host s hv, run_of_load crypto { host with files } s hw, alike.block]
    cases hb : w.block with
    | error e => exact .refl _
    | ok b =>
      have hreport : loadedReport s v b = loadedReport s w b := by
        rw [loadedReport, loadedReport, alike.pre, alike.post.length_eq]
      dsimp only
      rw [hreport]
      by_cases hempty : b.transactions.isEmpty = true
      · rw [if_pos hempty, if_pos hempty]
        exact ⟨rfl, rfl, rfl, rfl, .inl rfl⟩
      · rw [if_neg hempty, if_neg hempty, proceed_congr crypto host s alike b]
        obtain ⟨r, world', process', reports, milestones, hproceed⟩ :=
          appends_proceed crypto host s w b world none
        have hfiles : proceed crypto { host with files } s w b = proceed crypto host s w b := rfl
        rw [hfiles, hproceed, hproceed]
        exact ⟨rfl, rfl, rfl, rfl, .inr ⟨b, [loadedReport s w b], reports, rfl, rfl⟩⟩

/-- Sessions on vectors that agree but for the network, later blocks and skipped accounts: for the same
settings and the same surroundings, the result or fault is the same, the child is started with the same
arguments, the same requests are sent in the same order, and the reports differ at most in the one that
mentions the network. -/
theorem run_alike (crypto : Crypto) (host : Host ω) (files : String → Files) (s : Settings)
    {v w : TestVector} {name : String}
    (variants : (host.files s.corpus).Variants (files s.corpus) name v w) (alike : v.Alike s.skip w)
    (world : ω) :
    Indistinct s v w (run crypto host s (.start world))
      (run crypto { host with files } s (.start world)) ∧
    requests crypto host s world = requests crypto { host with files } s world := by
  refine ⟨indistinct_run crypto host files s variants alike world, ?_⟩
  have hlogged := indistinct_run crypto host.logged files s variants alike (world, [])
  exact congrArg Prod.snd hlogged.world

/-! ### The payment and a variant of it -/

namespace Variation

open Payment (payer payee miner)

/-- The payment with a network, a second block and another balance of its miner. -/
def variant : TestVector where
  pre := Payment.vector.pre
  blocks := Payment.vector.blocks ++ [""]
  post := [
    (payer, ⟨[], 0, 1, .empty⟩), (payee, ⟨[], 5, 0, .empty⟩), (miner, ⟨[], 1, 0, .empty⟩)]
  network := some "Paris"

def settings : Settings where
  corpus := "vectors"
  testName := "payment"
  skip := ⟨[miner]⟩

/-- A directory with one vector in it. -/
def directory (v : TestVector) : Files where
  list := .ok ["payment.json"]
  read _ := .ok v.encode

/-- The program can be started, and every request is answered by an empty text. -/
def host (v : TestVector) : Host Unit where
  files _ := directory v
  programs := ⟨fun name => some name, fun _ _ => .ok .running⟩
  transport _ := ⟨fun _ _ => (.ok "\x7b\"result\":\"\"\x7d", ())⟩
  patience := 1

theorem variants : (directory Payment.vector).Variants (directory variant) "payment.json"
    Payment.vector variant where
  list := rfl
  others := by
    intro names hnames n hn hne
    cases hnames
    exact absurd (List.mem_singleton.mp hn) hne
  left := ⟨_, rfl, (TestVector.reads_vector (by decide) (by decide)).decode⟩
  right := ⟨_, rfl, (TestVector.reads_vector (by decide) (by decide)).decode⟩

theorem alike : Payment.vector.Alike settings.skip variant where
  pre := rfl
  firstBlock := rfl
  post := by
    refine .cons ⟨rfl, fun _ => rfl⟩ (.cons ⟨rfl, fun _ => rfl⟩ (.cons ⟨rfl, ?_⟩ .nil))
    intro hskip
    cases hskip

end Variation

open Variation in
theorem run_alike_payment :
    (directory Payment.vector).Variants (directory variant) "payment.json" Payment.vector variant ∧
    Payment.vector.Alike settings.skip variant ∧
    Indistinct settings Payment.vector variant
      (run Payment.crypto (host Payment.vector) settings (.start ()))
      (run Payment.crypto (host variant) settings (.start ())) ∧
    requests Payment.crypto (host Payment.vector) settings () =
      requests Payment.crypto (host variant) settings () :=
  ⟨variants, alike,
    run_alike Payment.crypto (host Payment.vector) (host variant).files settings variants alike ()⟩

end Session

end VectorReplay
