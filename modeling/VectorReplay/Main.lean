import VectorReplay.CommandLine
import VectorReplay.Node.Endpoint

/-!
The program on a real system: arguments, environment and files are taken from it, and the two streams
are written. Other programs, the network and the clock are not: a fixed host stands in for them, on which
no program is found, no address is reached and no time passes.
-/
namespace VectorReplay.Main

def fileError : IO.Error → FileError
  | .noFileOrDirectory .. => .notFound
  | .inappropriateType .. => .notDirectory
  | .invalidArgument .. => .nameTooLong
  | _ => .isDirectory

/-- The names in a directory. -/
def listDirectory (path : String) : IO (Except FileError (List String)) := do
  try
    let entries ← ((← IO.currentDir) / path).readDir
    return .ok (entries.toList.map fun e => e.fileName)
  catch e => return .error (fileError e)

def readText (path : String) : IO (Except FileError String) := do
  try
    let bytes ← IO.FS.readBinFile ((← IO.currentDir) / path)
    match Text.decode? bytes.toList with
    | some s => return .ok s
    | none => return .error .notText
  catch e => return .error (fileError e)

/-- Reads from a directory what the filter admits, if that is one file. -/
def readCorpus (path : String) (f : Filter) : IO Files := do
  match ← listDirectory path with
  | .error e => return { list := .error e, read := fun _ => .error e }
  | .ok names =>
    match Corpus.candidates f names with
    | [name] =>
      let text ← readText (Files.join path name)
      return { list := .ok names, read := fun _ => text }
    | _ => return { list := .ok names, read := fun _ => .error .notFound }

/-- The variables that the program looks at. -/
def consulted : List String :=
  ["TEST_NAME", "TEST_PARENT_FOLDER", "EF_TESTS_PARSED_DIR", "CLICOLOR_FORCE", "HOME", "USER"]

def readEnvironment : IO (Table String String) := do
  let mut env : Table String String := []
  for name in consulted do
    if let some value ← IO.getEnv name then
      env := env.set name value
  return env

def readEnvironmentFile : IO (Option Bytes) := do
  try
    let bytes ← IO.FS.readBinFile ((← IO.currentDir) / ".env")
    return some bytes.toList
  catch _ => return none

/-- No program is found, neither a node to start nor one that traces. -/
def noPrograms : Programs where
  which _ := none
  start _ _ := .error FileError.notFound.message

/-- Runs the program. The connection stands in for a real one: an endpoint without a script, behind a
network on which nothing is reached. -/
def run (args : List String) : IO UInt32 := do
  let environment ← readEnvironment
  let environmentFile ← readEnvironmentFile
  let env := CommandLine.effective environmentFile environment
  let files ← match Arguments.parse env.get? args with
    | .ok a => readCorpus a.corpus ⟨a.testName, a.folder⟩
    | .error _ => pure { list := .ok [], read := fun _ => .error .notFound }
  let host : Host Endpoint := {
    files := fun _ => files
    programs := noPrograms
    transport := Endpoint.transport .unreachable
    patience := 0 }
  let around : CommandLine.Surroundings Endpoint :=
    { host, environment, environmentFile, tracer := .missing, elapsed := 0 }
  let (outcome, _) := CommandLine.run .ethereum around args (.scripted [])
  IO.print outcome.output
  IO.eprint outcome.errors
  return UInt32.ofNat outcome.status

end VectorReplay.Main

def main (args : List String) : IO UInt32 :=
  VectorReplay.Main.run args
