import VectorReplay.CommandLine.Arguments
import VectorReplay.CommandLine.EnvironmentFile
import VectorReplay.Report

/-!
The program: read the arguments, run a session, and tell about it on two streams.
-/
namespace VectorReplay.CommandLine

def programName : String := "ef-debugger"

def programVersion : String := "0.1.0"

/-- What the program finds around it. -/
structure Surroundings (ω : Type) where
  host : Host ω
  environment : Table String String
  /-- The environment file of the working directory. -/
  environmentFile : Option Bytes
  tracer : Tracer
  /-- Seconds that the session takes. -/
  elapsed : Nat

/-- What was written, and the status at the end. -/
structure Outcome where
  status : Nat
  output : String
  errors : String
deriving DecidableEq

namespace Outcome

def empty : Outcome := ⟨0, "", ""⟩

def print (o : Outcome) (line : String) : Outcome :=
  { o with output := o.output ++ line ++ "\n" }

def complain (o : Outcome) (line : String) : Outcome :=
  { o with errors := o.errors ++ line ++ "\n" }

/-- Shows a report on the stream of its level. -/
def tell (console : Console) (o : Outcome) (r : Report) : Outcome :=
  if console.shows r.level then
    let line := Console.line console.coloured r
    if r.level.isAlarm then o.complain line else o.print line
  else o

def notice (console : Console) (o : Outcome) : Notice → Outcome
  | .line text => o.print text
  | .report r => o.tell console r

end Outcome

/-- Colours are shown only when they are forced. -/
def coloured (env : Table String String) : Bool :=
  (env.get? "CLICOLOR_FORCE").any (· ≠ "0")

/-- A heading word in bold. -/
def heading (coloured : Bool) (word : String) : String :=
  Console.painted coloured "1;92" word

/-- One line for each way. The pages of help, and reports that name the argument at fault and show the
usage, are left out. -/
def usageText : UsageError → String
  | .help => programName ++ " " ++ programVersion
  | .version => programName ++ " " ++ programVersion
  | .unknownArgument => "error: Found an argument which was not expected"
  | .missingArgument => "error: The following required arguments were not provided"
  | .emptyValue => "error: An argument requires a value but none was supplied"
  | .invalidValue => "error: Invalid value"
  | .repeated => "error: An argument was provided more than once"

/-- Help and the version are answers; the other ways to end here are failures. -/
def usage (e : UsageError) : Outcome :=
  if e = .help ∨ e = .version then Outcome.empty.print (usageText e)
  else { Outcome.empty.complain (usageText e) with status := 1 }

def twoDigits (n : Nat) : String :=
  (if n < 10 then "0" else "") ++ toString n

/-- Minutes and seconds. -/
def duration (seconds : Nat) : String :=
  toString (seconds / 60) ++ "m" ++ twoDigits (seconds % 60) ++ "s"

variable {ω : Type}

/-- What follows a session that succeeded. -/
def conclude (a : Arguments) (around : Surroundings ω) (console : Console) (s : Session)
    (o : Outcome) : Outcome :=
  let o := if a.quiet then o else
    o.print ("    " ++ heading console.coloured "Finished" ++ " replaying " ++
      toString s.result.receipts.length ++ " transactions in " ++ duration around.elapsed)
  let o := if a.trace then
      (Diagnosis.trace around.tracer s.result.hashes s.url).foldl (Outcome.notice console) o
    else o
  if a.noWait then o else o.tell console (Session.waitReport s)

def failure (f : Fault) (o : Outcome) : Outcome :=
  match f with
  | .failed e => { o.complain e.report with status := 1 }
  | .aborted => { o with status := 101 }
  | .stalled => { o with status := 1 }

/-- Runs a session with arguments that were read. -/
def session (crypto : Crypto) (around : Surroundings ω) (env : Table String String)
    (a : Arguments) (world : ω) : Outcome × ω :=
  let console : Console := ⟨a.verbose, a.quiet, coloured env⟩
  let o := if a.quiet then Outcome.empty else
    Outcome.empty.print ("   " ++ heading console.coloured "Debugging" ++ " `" ++ a.testName ++
      "` from " ++ a.corpus)
  let (result, progress) := Session.run crypto around.host a.settings (.start world)
  let o := progress.reports.foldl (Outcome.tell console) o
  (match result with
    | .ok s => conclude a around console s o
    | .error f => failure f o, progress.world)

/-- The environment after the environment file, which wins, was read. -/
def effective (file : Option Bytes) (env : Table String String) : Table String String :=
  match file with
  | some bytes => EnvironmentFile.apply bytes env
  | none => env

/-- The whole program; arguments win over the environment. -/
def run (crypto : Crypto) (around : Surroundings ω) (args : List String) (world : ω) :
    Outcome × ω :=
  let env := effective around.environmentFile around.environment
  match Arguments.parse env.get? args with
  | .error e => (usage e, world)
  | .ok a => session crypto around env a world

end VectorReplay.CommandLine
