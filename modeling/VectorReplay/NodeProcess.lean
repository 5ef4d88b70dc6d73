import VectorReplay.Error
import VectorReplay.Hardfork

/-!
The child process that runs a node. All handles share one slot: whoever empties it first kills and
reaps the child, and nobody after that.
-/
namespace VectorReplay

/-! ### Starting -/

/-- Which program to start, and the port that it is to serve. -/
structure Launch where
  binary : String := "anvil"
  port : Nat := 8545
  verbose : Bool := false
deriving DecidableEq, Repr

namespace Launch

def url (l : Launch) : String :=
  "http://127.0.0.1:" ++ toString l.port

def arguments (l : Launch) (timestamp : UInt64) (fork : Hardfork) : List String :=
  ["--port", toString l.port, "--timestamp", toString timestamp.toNat, "--hardfork", fork.name]

end Launch

/-- How a child stands. -/
inductive Child
  | running
  | exited (status : Int)
  /-- The system cannot tell. -/
  | unknown (reason : String)
deriving DecidableEq, Repr

/-- What the system does with the name of a program. -/
structure Programs where
  /-- The path of a program that can be executed. -/
  which : (name : String) → Option String
  /-- A new child, or why there is none. -/
  start : (path : String) → (arguments : List String) → Except String Child

/-- What is said of a program that is not there. -/
def notOnPath : String := "cannot find binary path"

def exitText (status : Int) : String :=
  "exit status: " ++ toString status

/-! ### Running -/

structure NodeProcess where
  path : String
  /-- Empty once the child was stopped. -/
  slot : Option Child
  handles : Nat
  /-- How often a child was killed and reaped. -/
  kills : Nat
deriving DecidableEq, Repr

namespace NodeProcess

def start (programs : Programs) (l : Launch) (arguments : List String) : Except Error NodeProcess :=
  match programs.which l.binary with
  | none => .error (.launch l.binary notOnPath)
  | some path =>
    match programs.start path arguments with
    | .error reason => .error (.launch path reason)
    | .ok child => .ok { path, slot := some child, handles := 1, kills := 0 }

/-- Stops the child through any handle; tells whether this call did it. -/
def stop (p : NodeProcess) : Bool × NodeProcess :=
  match p.slot with
  | none => (false, p)
  | some _ => (true, { p with slot := none, kills := p.kills + 1 })

def terminate (p : NodeProcess) : NodeProcess := p.stop.2

/-- A further handle on the same slot. -/
def newHandle (p : NodeProcess) : NodeProcess :=
  { p with handles := p.handles + 1 }

/-- The child exits on its own; it stays in the slot until it is reaped. -/
def exit (status : Int) (p : NodeProcess) : NodeProcess :=
  match p.slot with
  | some .running => { p with slot := some (.exited status) }
  | _ => p

def ensureRunning (p : NodeProcess) : Except Error Unit :=
  match p.slot with
  | none => .error (.launch p.path "the process was terminated")
  | some .running => .ok ()
  | some (.exited status) =>
    .error (.launch p.path
      ("the process exited with " ++ exitText status ++ " before accepting connections"))
  | some (.unknown reason) => .error (.launch p.path reason)

/-- Has signals stop the child through a handle of their own, unless no handler can be installed. -/
def stopOnSignal (handlerFault : Option String) (p : NodeProcess) : Except Error NodeProcess :=
  match handlerFault with
  | none => .ok p.newHandle
  | some reason => .error (.launch p.path ("cannot install the signal handler: " ++ reason))

@[simp] theorem stop_of_slot_none {p : NodeProcess} (h : p.slot = none) : p.stop = (false, p) := by
  simp [stop, h]

@[simp] theorem stop_of_slot_some {p : NodeProcess} {child : Child} (h : p.slot = some child) :
    p.stop = (true, { p with slot := none, kills := p.kills + 1 }) := by
  simp [stop, h]

@[simp] theorem slot_stop (p : NodeProcess) : p.stop.2.slot = none := by
  unfold stop
  split <;> simp_all

/-- The exit status after an interruption by a signal. -/
def interruptedStatus : Nat := 130

end NodeProcess

end VectorReplay
