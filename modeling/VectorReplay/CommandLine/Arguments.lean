import VectorReplay.CommandLine.Parameter
import VectorReplay.Session

/-!
The arguments of the program. The two times among them are read and nothing waits for them: no time
passes in a session.
-/
namespace VectorReplay

structure Arguments where
  verbose : Bool
  quiet : Bool
  testName : String
  folder : String
  corpus : String
  port : Nat
  binary : String
  hardfork : Option Hardfork
  skip : List Address
  /-- Milliseconds before the first call. -/
  startupDelay : Nat
  /-- Milliseconds between two polls. -/
  pollInterval : Nat
  noWait : Bool
  trace : Bool
deriving DecidableEq

namespace Arguments

/-! ### Values -/

/-- Digits behind an optional plus, below a bound. -/
def parseBounded (bound : Nat) (s : String) : Option Nat :=
  let digits := match s.toList with
    | '+' :: rest => rest
    | rest => rest
  if digits.isEmpty || !digits.all Char.isDigit then none
  else
    let n := digits.foldl (fun n c => 10 * n + (c.toNat - 48)) 0
    if n < bound then some n else none

def isBlank (b : UInt8) : Bool :=
  b = 32 || b = 13 || b = 10 || b = 9

/-- Forty digits behind an optional `0x`; blanks between them do not count. -/
def parseAddress (s : String) : Option Address :=
  let digits := match s.toList with
    | '0' :: 'x' :: rest => rest
    | rest => rest
  match Hex.decodeBytes ((Text.utf8 digits).filter (!isBlank ·)) with
  | .ok b => FixedBytes.ofBytes? 20 b
  | .error _ => none

def startupDelayDefault : Nat := 1000

def pollIntervalDefault : Nat := 100

/-- Seconds that an answer may take. -/
def answerTimeout : Nat := 60

/-! ### Parameters -/

def parameters : List Parameter := [
  { name := "verbose", letter := some 'v', arity := .none },
  { name := "quiet", letter := some 'q', arity := .none },
  { name := "test-name", environment := some "TEST_NAME", required := true },
  { name := "parent-folder", environment := some "TEST_PARENT_FOLDER", fallback := some "" },
  { name := "corpus", environment := some "EF_TESTS_PARSED_DIR",
    fallback := some Settings.defaultCorpus },
  { name := "port", fallback := some (toString ({} : Launch).port),
    valid := fun s => (parseBounded UInt16.size s).isSome },
  { name := "anvil", fallback := some ({} : Launch).binary },
  { name := "hardfork", valid := fun s => (Hardfork.parse? s).isSome },
  { name := "skip-address", arity := .many, valid := fun s => (parseAddress s).isSome },
  { name := "startup-delay-ms", fallback := some (toString startupDelayDefault),
    valid := fun s => (parseBounded UInt64.size s).isSome },
  { name := "poll-interval-ms", fallback := some (toString pollIntervalDefault),
    valid := fun s => (parseBounded UInt64.size s).isSome },
  { name := "no-wait", arity := .none },
  { name := "trace", arity := .none }]

def ofMatches (m : Matches) : Arguments where
  verbose := m.isSet "verbose"
  quiet := m.isSet "quiet"
  testName := (m.value? "test-name").getD ""
  folder := (m.value? "parent-folder").getD ""
  corpus := (m.value? "corpus").getD ""
  port := ((m.value? "port").bind (parseBounded UInt16.size)).getD 0
  binary := (m.value? "anvil").getD ""
  hardfork := (m.value? "hardfork").bind Hardfork.parse?
  skip := (m.given "skip-address").values.filterMap parseAddress
  startupDelay := ((m.value? "startup-delay-ms").bind (parseBounded UInt64.size)).getD 0
  pollInterval := ((m.value? "poll-interval-ms").bind (parseBounded UInt64.size)).getD 0
  noWait := m.isSet "no-wait"
  trace := m.isSet "trace"

def parse (env : String → Option String) (args : List String) : Except UsageError Arguments :=
  (Parameter.parse parameters env args).map ofMatches

/-- The settings that the arguments describe; the skip list starts from the standard one, and signals
stop the child. -/
def settings (a : Arguments) : Settings where
  corpus := a.corpus
  testName := a.testName
  folder := a.folder
  launch := { binary := a.binary, port := a.port, verbose := a.verbose }
  hardfork := a.hardfork
  skip := a.skip.foldl SkipList.push .standard
  stopOnSignal := true

end Arguments

end VectorReplay
