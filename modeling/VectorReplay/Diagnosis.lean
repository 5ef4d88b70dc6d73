import VectorReplay.Bytes
import VectorReplay.Hex.Basic
import VectorReplay.NodeProcess
import VectorReplay.Report

/-!
Looking at replayed transactions: the commands that debug them, and tracing them with a program.
-/
namespace VectorReplay

/-- A line that is printed, or a report. -/
inductive Notice
  | line (text : String)
  | report (r : Report)
deriving DecidableEq

/-- How the tracing program behaves. -/
inductive Tracer
  | missing
  /-- It is there, but cannot be started. -/
  | broken (reason : String)
  /-- It prints lines and ends with a status. -/
  | working (run : (arguments : List String) → List String × Int)

namespace Diagnosis

def tool : String := "cast"

def debugCommand (h : Hash) (url : String) : String :=
  tool ++ " run " ++ Hex.marked h.bytes ++ " --rpc-url " ++ url ++ " --debug"

/-- One report for each transaction, numbered from one. -/
def commandReports (hashes : List Hash) (url : String) : List Report :=
  hashes.zipIdx.map fun (h, i) =>
    ⟨.info, "Run `" ++ debugCommand h url ++ "` to debug transaction " ++ toString (i + 1)⟩

def traceArguments (h : Hash) (url : String) : List String :=
  ["run", Hex.marked h.bytes, "--rpc-url", url]

def warning (h : Hash) (what : String) : Notice :=
  .report ⟨.warning, "`" ++ tool ++ " run " ++ Hex.marked h.bytes ++ "` " ++ what⟩

/-- Traces one transaction; only a failure is reported. -/
def traceOne (t : Tracer) (h : Hash) (url : String) : List Notice :=
  match t with
  | .missing => []
  | .broken reason => [warning h ("could not be started: " ++ reason)]
  | .working run =>
    let (lines, status) := run (traceArguments h url)
    lines.map .line ++ (if status = 0 then [] else [warning h ("exited with " ++ exitText status)])

/-- Traces the transactions in their order. -/
def trace (t : Tracer) (hashes : List Hash) (url : String) : List Notice :=
  match t with
  | .missing =>
    [.report ⟨.warning, "Tracing skipped, `" ++ tool ++ "` is not available: " ++ notOnPath⟩]
  | t => hashes.flatMap fun h => traceOne t h url

end Diagnosis

end VectorReplay
