import VectorReplay.Table

/-!
Parameters of a command line, and matching arguments against them. What an argument list leaves open is
filled from the environment and then from fallbacks; only what is given at last is checked.
-/
namespace VectorReplay

inductive UsageError
  | help
  | version
  | unknownArgument
  | missingArgument
  | emptyValue
  | invalidValue
  | repeated
deriving DecidableEq, Repr

/-- How many values a parameter takes. -/
inductive Arity
  | none
  | one
  | many
deriving DecidableEq, Repr

structure Parameter where
  name : String
  letter : Option Char := none
  arity : Arity := .one
  /-- The environment variable that stands in for it. -/
  environment : Option String := none
  fallback : Option String := none
  required : Bool := false
  valid : String → Bool := fun _ => true

/-- How often a parameter was given, and its values. -/
structure Given where
  count : Nat
  values : List String
deriving DecidableEq, Repr

abbrev Matches := Table String Given

namespace Matches

def given (m : Matches) (name : String) : Given :=
  (m.get? name).getD ⟨0, []⟩

def count (m : Matches) (name : String) : Matches :=
  let g := m.given name
  m.set name ⟨g.count + 1, g.values⟩

def add (m : Matches) (name value : String) : Matches :=
  let g := m.given name
  m.set name ⟨g.count, g.values ++ [value]⟩

def isSet (m : Matches) (name : String) : Bool :=
  (m.get? name).isSome

def value? (m : Matches) (name : String) : Option String :=
  (m.given name).values.head?

end Matches

namespace Parameter

/-- What is left to read after an argument: the parameter whose value is awaited, if there is one. -/
abbrev Pending := Option Parameter

/-- An argument behind a dash names parameters; a lone dash is a value. -/
def isName (s : List Char) : Bool :=
  s.head? = some '-' && s.length ≠ 1

/-- Cuts at the first `=`: the name, and the value without leading `=`. -/
def cut (s : List Char) : String × Option String :=
  (String.ofList (s.takeWhile (· ≠ '=')),
    if s.contains '=' then
      some (String.ofList ((s.dropWhile (· ≠ '=')).dropWhile (· = '=')))
    else none)

/-- A parameter by its long name. -/
def matchLong (ps : List Parameter) (s : List Char) (m : Matches) :
    Except UsageError (Matches × Pending) :=
  let (name, value) := cut (s.dropWhile (· = '-'))
  if name = "help" then .error .help
  else if name = "version" then .error .version
  else match ps.find? fun p => p.name = name with
    | none => .error .unknownArgument
    | some p =>
      let m := m.count name
      match p.arity, value with
      | .none, _ => .ok (m, none)
      | _, some v => .ok (m.add name v, none)
      | _, none => .ok (m, some p)

/-- Parameters by their letters. -/
def matchLetters (ps : List Parameter) : List Char → Matches → Except UsageError Matches
  | [], m => .ok m
  | c :: rest, m =>
    if c = 'h' then .error .help
    else if c = 'V' then .error .version
    else match ps.find? fun p => p.letter = some c with
      | none => .error .unknownArgument
      | some p => matchLetters ps rest (m.count p.name)

/-- Matches arguments from left to right. After a bare `--` nothing may follow. -/
def matchAll (ps : List Parameter) :
    List String → Matches → Pending → Except UsageError (Matches × Pending)
  | [], m, pending => .ok (m, pending)
  | arg :: rest, m, pending =>
    if arg = "--" then
      if rest.isEmpty then .ok (m, pending) else .error .unknownArgument
    else if isName arg.toList then
      if "--".toList.isPrefixOf arg.toList then do
        let (m, pending) ← matchLong ps arg.toList m
        matchAll ps rest m pending
      else do
        let m ← matchLetters ps (arg.toList.drop 1) m
        matchAll ps rest m none
    else match pending with
      | none => .error .unknownArgument
      | some p => matchAll ps rest (m.add p.name arg) (if p.arity = .many then some p else none)

/-- Gives a parameter without a value another one. -/
def fill (value : Parameter → Option String) (m : Matches) (p : Parameter) : Matches :=
  match (m.given p.name).values, value p with
  | [], some v => m.add p.name v
  | _, _ => m

def checkRequired (ps : List Parameter) (m : Matches) : Except UsageError Unit :=
  if ps.all fun p => !p.required || m.isSet p.name then .ok () else .error .missingArgument

/-- Checks one parameter: it has a value, all values are valid, and it is not repeated. -/
def check (m : Matches) (p : Parameter) : Except UsageError Unit :=
  let g := m.given p.name
  if m.isSet p.name && p.arity ≠ .none && g.values.isEmpty then .error .emptyValue
  else if !g.values.all p.valid then .error .invalidValue
  else if 1 < g.count && p.arity ≠ .many then .error .repeated
  else .ok ()

/-- Matches, fills and checks an argument list. -/
def parse (ps : List Parameter) (env : String → Option String) (args : List String) :
    Except UsageError Matches := do
  let (m, pending) ← matchAll ps args [] none
  let m := ps.foldl (fill fun p => p.environment.bind env) m
  let m := ps.foldl (fill Parameter.fallback) m
  checkRequired ps m
  match pending with
  | some p => if (m.given p.name).values.isEmpty then .error .emptyValue
  | none => pure ()
  ps.forM (check m)
  pure m

end Parameter

end VectorReplay
