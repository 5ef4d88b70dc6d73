/-!
What a run tells while it goes on, and what a terminal shows of it: which reports, in which lines, and
on which stream.
-/
namespace VectorReplay

inductive Level
  | debug
  | info
  | success
  | warning
  | error
deriving DecidableEq, Repr

structure Report where
  level : Level
  text : String
deriving DecidableEq, Repr

/-! ### Reports on a terminal -/

namespace Level

/-- The word in front of a report. -/
def tag : Level → String
  | .debug => "DEBUG"
  | .info => "INFO"
  | .success => "PASSED"
  | .warning => "WARNING"
  | .error => "FAILED"

/-- The terminal's code of a level's colour. -/
def colour : Level → String
  | .debug => "90"
  | .info => "97"
  | .success => "32"
  | .warning => "33"
  | .error => "91"

/-- Warnings and errors go to the error stream. -/
def isAlarm : Level → Bool
  | .warning | .error => true
  | _ => false

end Level

structure Console where
  verbose : Bool
  quiet : Bool
  coloured : Bool
deriving DecidableEq, Repr

namespace Console

/-- Alarms are always shown; otherwise quiet wins over verbose. -/
def shows (c : Console) (l : Level) : Bool :=
  l.isAlarm || (!c.quiet && (l ≠ .debug || c.verbose))

def padLeft (width : Nat) (s : String) : String :=
  String.ofList (List.replicate (width - s.length) ' ') ++ s

def painted (coloured : Bool) (colour : String) (s : String) : String :=
  if coloured then "\x1b[" ++ colour ++ "m" ++ s ++ "\x1b[0m" else s

/-- The tag is aligned to the right in seven columns. -/
def line (coloured : Bool) (r : Report) : String :=
  painted coloured r.level.colour (padLeft 7 r.level.tag) ++ " " ++ r.text

end Console

end VectorReplay
