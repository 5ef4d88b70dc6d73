import VectorReplay.Proofs.Protocol.Order
import VectorReplay.Session

/-!
The lifetime of the child of a session. Whatever the files, the settings, the start and the replies of
the node are, the child is started at most once and for a block that has transactions, nothing is asked
of it before it was found running, and it is stopped once on every way out but success.
-/
namespace VectorReplay

/-! ### Processes -/

namespace NodeProcess

/-- The child was never stopped. -/
def Kept (p : NodeProcess) : Prop := p.slot.isSome ∧ p.kills = 0

/-- The child was stopped once. -/
def StoppedOnce (p : NodeProcess) : Prop := p.slot = none ∧ p.kills = 1

theorem kept_of_start {programs : Programs} {l : Launch} {arguments : List String} {p : NodeProcess}
    (h : NodeProcess.start programs l arguments = .ok p) : p.Kept := by
  unfold NodeProcess.start at h
  split at h
  next => cases h
  next =>
    split at h
    next => cases h
    next =>
      cases h
      exact ⟨rfl, rfl⟩

theorem Kept.stopOnSignal {p q : NodeProcess} {handlerFault : Option String} (h : p.Kept)
    (hq : p.stopOnSignal handlerFault = .ok q) : q.Kept := by
  cases handlerFault with
  | some reason => cases hq
  | none =>
    cases hq
    exact h

theorem slot_of_ensureRunning {p : NodeProcess} (h : p.ensureRunning = .ok ()) :
    p.slot = some .running := by
  unfold ensureRunning at h
  split at h
  next => cases h
  next hslot => exact hslot
  next => cases h
  next => cases h

theorem Kept.stop {p : NodeProcess} (h : p.Kept) : p.stop.1 = true ∧ p.stop.2.StoppedOnce := by
  obtain ⟨hslot, hkills⟩ := h
  obtain ⟨child, hchild⟩ := Option.isSome_iff_exists.mp hslot
  rw [stop_of_slot_some hchild]
  exact ⟨rfl, rfl, by rw [hkills]⟩

end NodeProcess

namespace Session

variable {ω α β : Type} {host : Host ω} {s : Settings}

/-! ### Milestones -/

def Milestone.isStart : Milestone → Bool
  | .started _ => true
  | _ => false

def Milestone.isCall : Milestone → Bool
  | .call _ => true
  | _ => false

/-- The settings name this vector, and this is its block. -/
def Loads (host : Host ω) (s : Settings) (v : TestVector) (b : Block) : Prop :=
  (⟨s.corpus, host.files s.corpus⟩ : Corpus).load ⟨s.testName, s.folder⟩ = .ok v ∧ v.block = .ok b

/-- The arguments of the child for a block. -/
def arguments (s : Settings) (b : Block) : List String :=
  s.launch.arguments b.header.timestamp (s.forkFor b)

/-- From one progress to a later one: what happened in between, and how the process and the world
stand then. -/
structure Progress.Goes (p : Progress ω) (ms : List Milestone) (process : Option NodeProcess)
    (world : ω) (p' : Progress ω) : Prop where
  milestones : p'.milestones = p.milestones ++ ms
  process : p'.process = process
  world : p'.world = world

theorem Progress.Goes.refl (p : Progress ω) : p.Goes [] p.process p.world p :=
  ⟨(List.append_nil _).symm, rfl, rfl⟩

theorem Progress.Goes.trans {p p' p'' : Progress ω} {ms ms' : List Milestone}
    {process process' : Option NodeProcess} {world world' : ω} (h : p.Goes ms process world p')
    (h' : p'.Goes ms' process' world' p'') : p.Goes (ms ++ ms') process' world' p'' := by
  refine ⟨?_, h'.process, h'.world⟩
  rw [h'.milestones, h.milestones, List.append_assoc]

/-! ### Before the child runs -/

theorem load_cases (host : Host ω) (s : Settings) (p : Progress ω) :
    (∃ f, load host s p = (.error f, p)) ∨
    ∃ v b p', Loads host s v b ∧ load host s p = (.ok (v, b), p') ∧
      p.Goes [.loaded v b] p.process p.world p' := by
  unfold load
  cases hv : (⟨s.corpus, host.files s.corpus⟩ : Corpus).load ⟨s.testName, s.folder⟩ with
  | error e => exact Or.inl ⟨.failed e, rfl⟩
  | ok v =>
    cases hb : v.block with
    | error e =>
      refine Or.inl ⟨.failed (.block e), ?_⟩
      simp only [ofError, pure_bind, hb]
      rfl
    | ok b =>
      refine Or.inr ⟨v, b, ?after, ⟨hv, hb⟩, ?result, ?goes⟩
      case result =>
        simp only [ofError, pure_bind, hb]
        rfl
      case goes => exact ⟨rfl, rfl, rfl⟩

theorem mentionNetwork_cases (v : TestVector) (fork : Hardfork) (p : Progress ω) :
    ∃ p', mentionNetwork v fork p = (.ok (), p') ∧ p.Goes [] p.process p.world p' := by
  unfold mentionNetwork
  cases v.network with
  | none => exact ⟨p, rfl, .refl p⟩
  | some network =>
    by_cases hsame : Hardfork.sameLetters network fork.name = true
    · simp only [hsame, if_true]
      exact ⟨p, rfl, .refl p⟩
    · simp only [hsame]
      exact ⟨_, rfl, (List.append_nil _).symm, rfl, rfl⟩

theorem start_cases (host : Host ω) (s : Settings) (v : TestVector) (b : Block) (p : Progress ω) :
    (∃ f p', start host s v b p = (.error f, p') ∧ p.Goes [] p.process p.world p') ∨
    ∃ child p', child.Kept ∧ start host s v b p = (.ok child, p') ∧
      p.Goes [.started (arguments s b)] (some child) p.world p' := by
  obtain ⟨p₁, hmention, hgoes⟩ := mentionNetwork_cases v (s.forkFor b) p
  unfold start
  rw [bind_of_ok hmention]
  cases hstart : NodeProcess.start host.programs s.launch (arguments s b) with
  | error e =>
    refine Or.inl ⟨.failed e, p₁, ?_, hgoes⟩
    rw [arguments] at hstart
    simp only [hstart]
    rfl
  | ok child =>
    refine Or.inr ⟨child, ?after, NodeProcess.kept_of_start hstart, ?result, hgoes.trans ?goes⟩
    case result =>
      rw [arguments] at hstart
      simp only [hstart]
      rfl
    case goes => exact ⟨rfl, rfl, hgoes.world⟩

theorem watchSignals_cases (host : Host ω) (s : Settings) {child : NodeProcess} (h : child.Kept)
    {p : Progress ω} (hp : p.process = some child) :
    (∃ f, watchSignals host s child p = (.error f, p)) ∨
    ∃ child' p', child'.Kept ∧ watchSignals host s child p = (.ok child', p') ∧
      p.Goes [] (some child') p.world p' := by
  unfold watchSignals
  split
  · cases hsignal : child.stopOnSignal host.handlerFault with
    | error e => exact Or.inl ⟨.failed e, rfl⟩
    | ok child' =>
      exact Or.inr ⟨child', _, h.stopOnSignal hsignal, rfl, (List.append_nil _).symm, rfl, rfl⟩
  · exact Or.inr ⟨child, p, h, rfl, (List.append_nil _).symm, hp, rfl⟩

/-! ### While the child runs -/

/-- A step that does nothing but report and make calls, and what its result then satisfies. -/
def Talks (m : Step ω α) (Q : α → Prop) : Prop :=
  ∀ p, ∃ calls world, p.Goes calls p.process world (m p).2 ∧
    (∀ m ∈ calls, Milestone.isCall m) ∧ ∀ a, (m p).1 = .ok a → Q a

theorem talks_pure {a : α} {Q : α → Prop} (h : Q a) : Talks (pure a : Step ω α) Q := by
  intro p
  refine ⟨[], p.world, .refl p, by simp, ?_⟩
  rintro _ ⟨⟩
  exact h

theorem Talks.bind {m : Step ω α} {f : α → Step ω β} {Q : α → Prop} {R : β → Prop}
    (hm : Talks m Q) (hf : ∀ a, Q a → Talks (f a) R) : Talks (m >>= f) R := by
  intro p
  obtain ⟨calls, world, hgoes, hcalls, hq⟩ := hm p
  obtain ⟨r, p', hr⟩ : ∃ r p', m p = (r, p') := ⟨_, _, rfl⟩
  rw [hr] at hgoes hq
  cases r with
  | error e =>
    rw [bind_of_error hr]
    exact ⟨calls, world, hgoes, hcalls, by simp⟩
  | ok a =>
    obtain ⟨calls', world', hgoes', hcalls', hr'⟩ := hf a (hq a rfl) p'
    rw [bind_of_ok hr]
    rw [hgoes.process] at hgoes'
    exact ⟨calls ++ calls', world', hgoes.trans hgoes',
      List.forall_mem_append.mpr ⟨hcalls, hcalls'⟩, hr'⟩

theorem talks_report (level : Level) (text : String) :
    Talks (report level text : Step ω Unit) fun _ => True := by
  intro p
  exact ⟨[], p.world, ⟨(List.append_nil _).symm, rfl, rfl⟩, by simp, by simp⟩

theorem talks_forM {γ : Type} {g : γ → Step ω PUnit} (h : ∀ c, Talks (g c) fun _ => True)
    (cs : List γ) : Talks (cs.forM g) fun _ => True := by
  induction cs with
  | nil => exact talks_pure trivial
  | cons c cs ih => exact (h c).bind fun _ _ => ih

theorem talks_connect (host : Host ω) (url : String) :
    Talks (connect host url) fun _ => True := by
  intro p
  obtain ⟨r, remote, hconnect⟩ : ∃ r remote,
    Remote.connect (host.transport url) p.world = (r, remote) := ⟨_, _, rfl⟩
  refine ⟨[.call Remote.probe], remote.world, ?_, by simp [Milestone.isCall], by simp⟩
  unfold connect
  rw [bind_of_ok (get_apply p)]
  simp only [hconnect]
  cases r <;> exact ⟨rfl, rfl, rfl⟩

theorem talks_replay (crypto : Crypto) (host : Host ω) (s : Settings) (v : TestVector) (b : Block)
    (remote : Remote ω) : Talks (replay crypto host s v b remote) fun _ => True := by
  intro p
  obtain ⟨r, run, hrun⟩ : ∃ r run, execute crypto (Remote.node (host.transport s.launch.url))
    host.patience s.skip v b (Run.start remote) = (r, run) := ⟨_, _, rfl⟩
  refine ⟨run.exchanges.map fun x => .call x.call.method, run.node.world, ?_, ?_, by simp⟩
  · unfold replay
    simp only [hrun]
    cases r <;> exact ⟨rfl, rfl, rfl⟩
  · intro m hm
    obtain ⟨x, -, rfl⟩ := List.mem_map.mp hm
    rfl

/-- Once the child is found running, the rest of a session only talks. -/
def converse (crypto : Crypto) (host : Host ω) (s : Settings) (v : TestVector) (b : Block)
    (child : NodeProcess) : Step ω Session := do
  let remote ← connect host s.launch.url
  let result ← replay crypto host s v b remote
  (Diagnosis.commandReports result.hashes s.launch.url).forM fun r => report r.level r.text
  pure { process := child, url := s.launch.url, result }

theorem talks_converse (crypto : Crypto) (host : Host ω) (s : Settings) (v : TestVector) (b : Block)
    (child : NodeProcess) :
    Talks (converse crypto host s v b child) fun session => session.process = child := by
  refine (talks_connect host _).bind fun remote _ => ?_
  refine (talks_replay crypto host s v b remote).bind fun result _ => ?_
  refine (talks_forM (fun _ => talks_report _ _) _).bind fun _ _ => ?_
  exact talks_pure rfl

/-- How a guarded child is used: it is not found running, or it is and then talked with. -/
inductive Use (world : ω) (child : NodeProcess) :
    List Milestone → ω → Except Fault Session → Prop
  | unused (f : Fault) : Use world child [] world (.error f)
  | used {calls : List Milestone} {world' : ω} {r : Except Fault Session} :
    child.slot = some .running → (∀ m ∈ calls, Milestone.isCall m) →
    (∀ session, r = .ok session → session.process = child) →
    Use world child (.foundRunning :: calls) world' r

theorem guarded_cases (crypto : Crypto) (host : Host ω) (s : Settings) (v : TestVector) (b : Block)
    {child : NodeProcess} (h : child.Kept) {p : Progress ω} (hp : p.process = some child) :
    ∃ child' ms world r p', child'.Kept ∧ Use p.world child' ms world r ∧
      guarded crypto host s v b child p = (r, p') ∧ p.Goes ms (some child') world p' := by
  have hguarded : guarded crypto host s v b child = (do
      let child ← watchSignals host s child
      report .info (launchText s b child)
      ofError child.ensureRunning
      reach .foundRunning
      converse crypto host s v b child) := rfl
  rw [hguarded]
  rcases watchSignals_cases host s h hp with ⟨f, hwatch⟩ | ⟨child', p₁, hkept, hwatch, hgoes⟩
  · rw [bind_of_error hwatch]
    exact ⟨child, [], p.world, _, p, h, .unused f, rfl, (List.append_nil _).symm, hp, rfl⟩
  rw [bind_of_ok hwatch]
  cases hrunning : child'.ensureRunning with
  | error e =>
    refine ⟨child', [], p.world, _, _, hkept, .unused (.failed e), rfl, ?_⟩
    exact ⟨hgoes.milestones, hgoes.process, hgoes.world⟩
  | ok u =>
    have hslot := NodeProcess.slot_of_ensureRunning hrunning
    obtain ⟨p₂, hfound, hgoes₂⟩ : ∃ p₂, (do
        report .info (launchText s b child')
        ofError (.ok u)
        reach .foundRunning
        converse crypto host s v b child') p₁ = converse crypto host s v b child' p₂ ∧
          p₁.Goes [.foundRunning] (some child') p.world p₂ :=
      ⟨{ p₁ with
          reports := p₁.reports ++ [⟨.info, launchText s b child'⟩]
          milestones := p₁.milestones ++ [.foundRunning] },
        rfl, rfl, hgoes.process, hgoes.world⟩
    obtain ⟨calls, world, hgoes₃, hcalls, hsession⟩ := talks_converse crypto host s v b child' p₂
    rw [hgoes₂.process] at hgoes₃
    rw [hfound]
    exact ⟨child', .foundRunning :: calls, world, _, _, hkept, .used hslot hcalls hsession, rfl,
      (hgoes.trans hgoes₂).trans hgoes₃⟩

theorem release_cases {child : NodeProcess} (h : child.Kept) (f : Fault) {p : Progress ω}
    (hp : p.process = some child) : ∃ child' p', child'.StoppedOnce ∧
      (release f : Step ω α) p = (.error f, p') ∧ p.Goes [.killed] (some child') p.world p' := by
  obtain ⟨hstop, honce⟩ := h.stop
  refine ⟨child.stop.2, ?after, honce, ?result, ?goes⟩
  case result =>
    unfold release
    rw [bind_of_ok (get_apply p)]
    simp only [hp, hstop]
    rfl
  case goes => exact ⟨rfl, rfl, rfl⟩

/-! ### Whole sessions -/

/-- The lives that a child can have, by the milestones of a session, the final process and world, and
the result. -/
inductive Life (host : Host ω) (s : Settings) (world : ω) :
    List Milestone → Option NodeProcess → ω → Except Fault Session → Prop
  | unloaded (f : Fault) : Life host s world [] none world (.error f)
  | unstarted {v : TestVector} {b : Block} (f : Fault) :
    Life host s world [.loaded v b] none world (.error f)
  | unused {v : TestVector} {b : Block} {child : NodeProcess} (f : Fault) :
    Loads host s v b → b.transactions ≠ [] → child.StoppedOnce →
    Life host s world [.loaded v b, .started (arguments s b), .killed] (some child) world (.error f)
  | stopped {v : TestVector} {b : Block} {calls : List Milestone} {child : NodeProcess} {world' : ω}
    (f : Fault) : Loads host s v b → b.transactions ≠ [] → (∀ m ∈ calls, Milestone.isCall m) →
    child.StoppedOnce →
    Life host s world (.loaded v b :: .started (arguments s b) :: .foundRunning ::
      (calls ++ [.killed])) (some child) world' (.error f)
  | kept {v : TestVector} {b : Block} {calls : List Milestone} {session : Session} {world' : ω} :
    Loads host s v b → b.transactions ≠ [] → (∀ m ∈ calls, Milestone.isCall m) →
    session.process.Kept → session.process.slot = some .running →
    Life host s world (.loaded v b :: .started (arguments s b) :: .foundRunning :: calls)
      (some session.process) world' (.ok session)

theorem run_life (crypto : Crypto) (host : Host ω) (s : Settings) (world : ω) :
    ∃ r final, run crypto host s (.start world) = (r, final) ∧
      Life host s world final.milestones final.process final.world r := by
  unfold run
  rcases load_cases host s (.start world) with ⟨f, hload⟩ | ⟨v, b, p₁, hloads, hload, hgoes₁⟩
  · rw [bind_of_error hload]
    exact ⟨_, _, rfl, .unloaded f⟩
  rw [bind_of_ok hload]
  by_cases hempty : b.transactions.isEmpty
  · simp only [hempty, if_true]
    refine ⟨.error (.failed .emptyBlock), p₁, rfl, ?_⟩
    rw [hgoes₁.milestones, hgoes₁.process, hgoes₁.world]
    exact .unstarted _
  have hnonempty : b.transactions ≠ [] := by simpa using hempty
  simp only [hempty, Bool.false_eq_true, if_false]
  rcases start_cases host s v b p₁ with
    ⟨f, p₂, hstart, hgoes₂⟩ | ⟨child, p₂, hchild, hstart, hgoes₂⟩
  · rw [bind_of_error hstart]
    have hgoes := hgoes₁.trans hgoes₂
    refine ⟨_, p₂, rfl, ?_⟩
    rw [hgoes.milestones, hgoes.process, hgoes₁.process, hgoes.world, hgoes₁.world]
    exact .unstarted f
  rw [bind_of_ok hstart]
  obtain ⟨child', ms, world', r, p₃, hchild', huse, hguarded, hgoes₃⟩ :=
    guarded_cases crypto host s v b hchild hgoes₂.process
  have hgoes := (hgoes₁.trans hgoes₂).trans hgoes₃
  rw [hgoes₂.world, hgoes₁.world] at huse
  cases r with
  | ok session =>
    rw [tryCatch_of_ok hguarded]
    refine ⟨_, p₃, rfl, ?_⟩
    rw [hgoes.milestones, hgoes.process, hgoes.world]
    cases huse with
    | used hslot hcalls hsession =>
      obtain rfl := hsession session rfl
      exact .kept hloads hnonempty hcalls hchild' hslot
  | error f =>
    rw [tryCatch_of_error hguarded]
    obtain ⟨child'', p₄, honce, hrelease, hgoes₄⟩ := release_cases hchild' f hgoes₃.process
    refine ⟨_, p₄, hrelease, ?_⟩
    rw [(hgoes.trans hgoes₄).milestones, hgoes₄.process, hgoes₄.world, hgoes₃.world]
    cases huse with
    | unused => exact .unused f hloads hnonempty honce
    | used _ hcalls _ => exact .stopped f hloads hnonempty hcalls honce

namespace Life

variable {world world' : ω} {ms : List Milestone} {process : Option NodeProcess}
  {r : Except Fault Session}

theorem not_mem_of_calls {calls : List Milestone} (h : ∀ m ∈ calls, Milestone.isCall m)
    {m : Milestone} (hm : m.isCall = false) : m ∉ calls := by
  intro hmem
  rw [h m hmem] at hm
  cases hm

theorem countP_isStart (h : Life host s world ms process world' r) :
    ms.countP Milestone.isStart ≤ 1 := by
  have hcalls {calls : List Milestone} (h : ∀ m ∈ calls, Milestone.isCall m) :
      calls.countP Milestone.isStart = 0 := by
    apply List.countP_eq_zero.mpr
    intro m hm hstart
    have hcall := h m hm
    cases m <;> simp [Milestone.isStart, Milestone.isCall] at hstart hcall
  cases h with
  | unloaded | unstarted | unused => simp [List.countP_cons, Milestone.isStart]
  | stopped _ _ _ h => simp [List.countP_cons, Milestone.isStart, hcalls h]
  | kept _ _ h => simp [List.countP_cons, Milestone.isStart, hcalls h]

/-- A session that started the child goes on from loading and starting. -/
theorem of_started (h : Life host s world ms process world' r) {args : List String}
    (hargs : .started args ∈ ms) : ∃ v b rest, ms = .loaded v b :: .started args :: rest ∧
      Loads host s v b ∧ b.transactions ≠ [] ∧ args = arguments s b := by
  cases h with
  | unloaded => simp at hargs
  | unstarted => simp at hargs
  | @unused v b _ f hloads hnonempty _ =>
    obtain rfl : args = arguments s b := by simpa using hargs
    exact ⟨v, b, _, rfl, hloads, hnonempty, rfl⟩
  | @stopped v b calls _ _ f hloads hnonempty hcalls _ =>
    have hnot : .started args ∉ calls := not_mem_of_calls hcalls rfl
    obtain rfl : args = arguments s b := by simpa [hnot] using hargs
    exact ⟨v, b, _, rfl, hloads, hnonempty, rfl⟩
  | @kept v b calls _ _ hloads hnonempty hcalls _ _ =>
    have hnot : .started args ∉ calls := not_mem_of_calls hcalls rfl
    obtain rfl : args = arguments s b := by simpa [hnot] using hargs
    exact ⟨v, b, _, rfl, hloads, hnonempty, rfl⟩

/-- A session that asked anything goes on from loading, starting and finding the child running. -/
theorem of_call (h : Life host s world ms process world' r) {method : String}
    (hcall : .call method ∈ ms) :
    ∃ v b args rest, ms = [.loaded v b, .started args, .foundRunning] ++ rest := by
  cases h with
  | unloaded => simp at hcall
  | unstarted => simp at hcall
  | unused => simp at hcall
  | stopped => exact ⟨_, _, _, _, rfl⟩
  | kept => exact ⟨_, _, _, _, rfl⟩

theorem world_eq (h : Life host s world ms process world' r) (hms : .foundRunning ∉ ms) :
    world' = world := by
  cases h with
  | unloaded => rfl
  | unstarted => rfl
  | unused => rfl
  | stopped => simp at hms
  | kept => simp at hms

theorem stopped_of_started (h : Life host s world ms process world' r) {f : Fault}
    (hf : r = .error f) {args : List String} (hargs : .started args ∈ ms) :
    ms.count .killed = 1 ∧ ms.getLast? = some .killed ∧
      ∃ child, process = some child ∧ child.StoppedOnce := by
  cases h with
  | unloaded => simp at hargs
  | unstarted => simp at hargs
  | @unused _ _ child _ _ _ honce => exact ⟨by simp, rfl, child, rfl, honce⟩
  | @stopped v b calls child _ _ _ _ hcalls honce =>
    have hnot : .killed ∉ calls := not_mem_of_calls hcalls rfl
    refine ⟨?_, ?_, child, rfl, honce⟩
    · simp [List.count_eq_zero_of_not_mem hnot]
    · rw [← List.cons_append, ← List.cons_append, ← List.cons_append, List.getLast?_concat]
  | kept => cases hf

theorem kept_of_ok (h : Life host s world ms process world' r) {session : Session}
    (hr : r = .ok session) : .killed ∉ ms ∧ process = some session.process ∧
      session.process.Kept ∧ session.process.slot = some .running := by
  cases h with
  | @kept _ _ calls _ _ _ _ hcalls hkept hslot =>
    obtain rfl := Except.ok.inj hr
    have hnot : .killed ∉ calls := not_mem_of_calls hcalls rfl
    exact ⟨by simp [hnot], rfl, hkept, hslot⟩
  | unloaded | unstarted | unused | stopped => cases hr

end Life

/-- What holds of the child over a session, by the milestones, the process and the world at the end and
the result. -/
structure Supervised (host : Host ω) (s : Settings) (world : ω) (ms : List Milestone)
    (process : Option NodeProcess) (world' : ω) (r : Except Fault Session) : Prop where
  /-- The child is started at most once, -/
  started_once : ms.countP Milestone.isStart ≤ 1
  /-- and only after the vector was loaded and its block was decoded and has transactions. -/
  loaded_first : ∀ before args after, ms = before ++ .started args :: after →
    ∃ v b, .loaded v b ∈ before ∧ Loads host s v b ∧ b.transactions ≠ [] ∧ args = arguments s b
  /-- Nothing is asked before the child was started and then found running; -/
  running_first : ∀ before method after, ms = before ++ .call method :: after →
    ∃ args, [.started args, .foundRunning].Sublist before
  /-- unless it was, nothing around the session changes. -/
  untouched : .foundRunning ∉ ms → world' = world
  /-- A session that fails once the child was started has stopped it, once, and does nothing more. -/
  stopped : ∀ f args, r = .error f → .started args ∈ ms →
    ms.count .killed = 1 ∧ ms.getLast? = some .killed ∧
      ∃ child, process = some child ∧ child.StoppedOnce
  /-- A session that succeeds keeps the child that it started and found running. -/
  kept : ∀ session, r = .ok session → .killed ∉ ms ∧ process = some session.process ∧
    session.process.Kept ∧ session.process.slot = some .running

theorem Life.supervised {world world' : ω} {ms : List Milestone} {process : Option NodeProcess}
    {r : Except Fault Session} (h : Life host s world ms process world' r) :
    Supervised host s world ms process world' r where
  started_once := h.countP_isStart
  loaded_first := by
    intro before args after hms
    have hstarted : .started args ∈ ms := by simp [hms]
    obtain ⟨v, b, rest, hrest, hloads, hnonempty, hargs⟩ := h.of_started hstarted
    have hsplit : [Milestone.loaded v b] ++ .started args :: rest = before ++ .started args :: after :=
      hrest.symm.trans hms
    obtain ⟨middle, rfl, -⟩ := append_eq_append_cons hsplit (by simp)
    exact ⟨v, b, by simp, hloads, hnonempty, hargs⟩
  running_first := by
    intro before method after hms
    have hcall : .call method ∈ ms := by simp [hms]
    obtain ⟨v, b, args, rest, hrest⟩ := h.of_call hcall
    obtain ⟨middle, rfl, -⟩ := append_eq_append_cons (hrest.symm.trans hms) (by simp)
    exact ⟨args, by simp⟩
  untouched := h.world_eq
  stopped := fun f args hf hargs => h.stopped_of_started hf hargs
  kept := fun session hr => h.kept_of_ok hr

/-- Whatever happens, a session supervises its child. -/
theorem run_supervised (crypto : Crypto) (host : Host ω) (s : Settings) (world : ω) :
    Supervised host s world (run crypto host s (.start world)).2.milestones
      (run crypto host s (.start world)).2.process (run crypto host s (.start world)).2.world
      (run crypto host s (.start world)).1 := by
  obtain ⟨r, final, hrun, hlife⟩ := run_life crypto host s world
  rw [hrun]
  exact hlife.supervised

end Session

end VectorReplay
