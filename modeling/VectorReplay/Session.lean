import VectorReplay.Corpus
import VectorReplay.Diagnosis
import VectorReplay.Node.Remote
import VectorReplay.NodeProcess
import VectorReplay.Replay
import VectorReplay.Seed
import VectorReplay.TestVector
import VectorReplay.Verify

/-!
Sessions: load a vector, start a node for it, replay it over a connection. The child is stopped on
every way out but success, on which the session keeps it.
-/
namespace VectorReplay

/-! ### Execution -/

/-- Runs a vector whose block was decoded already: seeds the state before the block, replays the block
and verifies the state after it. -/
def execute {σ : Type} (crypto : Crypto) (node : Node σ) (patience : Nat) (skip : SkipList)
    (v : TestVector) (b : Block) : Stage σ ExecutionResult := do
  Seed.all crypto node v.pre b
  let result ← Replay.block crypto node patience b
  Verify.all crypto node skip v.post
  pure result

/-! ### Settings and host -/

structure Settings where
  corpus : String
  testName : String
  folder : String := ""
  launch : Launch := {}
  /-- Replaces the version that the block's header implies. -/
  hardfork : Option Hardfork := none
  skip : SkipList := .standard
  /-- Whether signals stop the child before they end the program. -/
  stopOnSignal : Bool := false

def Settings.defaultCorpus : String := "tests/ef_tests/test_data/parsed"

/-- The version to launch for a block. -/
def Settings.forkFor (s : Settings) (b : Block) : Hardfork :=
  s.hardfork.getD b.header.hardfork

/-- The system around a session. -/
structure Host (ω : Type) where
  files : (path : String) → Files
  programs : Programs
  /-- The connection to an address. -/
  transport : (url : String) → Transport ω
  /-- How often a receipt is asked for. -/
  patience : Nat
  /-- Why no handler of signals can be installed, if so. -/
  handlerFault : Option String := none

structure Session where
  process : NodeProcess
  url : String
  result : ExecutionResult

namespace Session

/-- What happens before the child is started, to the child and on its connection, in order. -/
inductive Milestone
  | loaded (v : TestVector) (b : Block)
  | started (arguments : List String)
  | foundRunning
  | call (method : String)
  | killed
deriving DecidableEq

/-- A session in progress. -/
structure Progress (ω : Type) where
  world : ω
  process : Option NodeProcess
  reports : List Report
  milestones : List Milestone

variable {ω : Type}

def Progress.start (world : ω) : Progress ω := ⟨world, none, [], []⟩

/-- A part of a session. -/
abbrev Step (ω α : Type) := ExceptT Fault (StateM (Progress ω)) α

def report (level : Level) (text : String) : Step ω Unit :=
  modify fun p => { p with reports := p.reports ++ [⟨level, text⟩] }

def reach (m : Milestone) : Step ω Unit :=
  modify fun p => { p with milestones := p.milestones ++ [m] }

def ofError {α : Type} : Except Error α → Step ω α
  | .ok a => pure a
  | .error e => throw (.failed e)

/-- Finds the vector and decodes its block. -/
def load (host : Host ω) (s : Settings) : Step ω (TestVector × Block) := do
  let corpus : Corpus := ⟨s.corpus, host.files s.corpus⟩
  let v ← ofError (corpus.load ⟨s.testName, s.folder⟩)
  let b ← ofError (v.block.mapError .block)
  report .info ("Loaded `" ++ s.testName ++ "` from " ++ s.corpus ++ ": " ++
    toString v.pre.length ++ " pre-state accounts, " ++ toString b.transactions.length ++
    " transactions, " ++ toString v.post.length ++ " post-state accounts")
  reach (.loaded v b)
  pure (v, b)

/-- Mentions a network that the vector records and that is not launched. -/
def mentionNetwork (v : TestVector) (fork : Hardfork) : Step ω Unit :=
  match v.network with
  | none => pure ()
  | some network =>
    if Hardfork.sameLetters network fork.name then pure ()
    else report .debug ("The fixture network is `" ++ network ++ "`, launching anvil with `" ++
      fork.name ++ "`")

/-- Starts the child. -/
def start (host : Host ω) (s : Settings) (v : TestVector) (b : Block) : Step ω NodeProcess := do
  mentionNetwork v (s.forkFor b)
  let arguments := s.launch.arguments b.header.timestamp (s.forkFor b)
  let p ← ofError (NodeProcess.start host.programs s.launch arguments)
  modify fun progress => { progress with process := some p }
  reach (.started arguments)
  pure p

/-- Has signals stop the child, if the settings ask for it. -/
def watchSignals (host : Host ω) (s : Settings) (p : NodeProcess) : Step ω NodeProcess := do
  if s.stopOnSignal then
    let p ← ofError (p.stopOnSignal host.handlerFault)
    modify fun progress => { progress with process := some p }
    pure p
  else
    pure p

/-- Opens the connection to the child's port. -/
def connect (host : Host ω) (url : String) : Step ω (Remote ω) := do
  let p ← get
  let (result, remote) := Remote.connect (host.transport url) p.world
  set { p with
    world := remote.world
    milestones := p.milestones ++ [Milestone.call Remote.probe] }
  match result with
  | .ok () => pure remote
  | .error f => throw f

/-- Runs the vector over the connection. -/
def replay (crypto : Crypto) (host : Host ω) (s : Settings) (v : TestVector) (b : Block)
    (remote : Remote ω) : Step ω ExecutionResult := do
  let node := Remote.node (host.transport s.launch.url)
  let (result, run) := execute crypto node host.patience s.skip v b (Run.start remote)
  modify fun p => { p with
    world := run.node.world
    reports := p.reports ++ run.reports
    milestones := p.milestones ++ run.exchanges.map fun x => Milestone.call x.call.method }
  match result with
  | .ok r => pure r
  | .error f => throw f

/-- What is said of a child that was started for a block. -/
def launchText (s : Settings) (b : Block) (p : NodeProcess) : String :=
  "Launched " ++ p.path ++ " (timestamp " ++ toString b.header.timestamp.toNat ++ ", hardfork " ++
    (s.forkFor b).name ++ ")"

/-- What is done while the child is guarded. -/
def guarded (crypto : Crypto) (host : Host ω) (s : Settings) (v : TestVector) (b : Block)
    (p : NodeProcess) : Step ω Session := do
  let p ← watchSignals host s p
  report .info (launchText s b p)
  ofError p.ensureRunning
  reach .foundRunning
  let remote ← connect host s.launch.url
  let result ← replay crypto host s v b remote
  (Diagnosis.commandReports result.hashes s.launch.url).forM fun r => report r.level r.text
  pure { process := p, url := s.launch.url, result }

/-- Stops the child and leaves with a fault. -/
def release {α : Type} (f : Fault) : Step ω α := do
  let progress ← get
  match progress.process with
  | none => throw f
  | some p =>
    let (stopped, p) := p.stop
    set { progress with
      process := some p
      milestones := progress.milestones ++ (if stopped then [Milestone.killed] else []) }
    throw f

/-- A whole session up to the end of the replay. -/
def run (crypto : Crypto) (host : Host ω) (s : Settings) : Step ω Session := do
  let (v, b) ← load host s
  if b.transactions.isEmpty then throw (.failed .emptyBlock)
  let p ← start host s v b
  tryCatch (guarded crypto host s v b p) release

/-- What is said while the child is kept. -/
def waitReport (s : Session) : Report :=
  ⟨.info, "Anvil is still running at " ++ s.url ++ " (press Enter or Ctrl+C to stop)"⟩

/-- Ends a session. -/
def close (s : Session) : Session :=
  { s with process := s.process.terminate }

end Session

end VectorReplay
