import VectorReplay.Json.Scan

/-!
Passing over a value of any shape. Open brackets are kept on a stack, so the nesting has no limit;
the parts of the value are only scanned.
-/
namespace VectorReplay.Json

inductive Bracket
  | list
  | object
deriving DecidableEq, Repr

namespace Bracket

def closing : Bracket → Char
  | .list => ']'
  | .object => '\x7d'

def early : Bracket → Error
  | .list => .eofInList
  | .object => .eofInObject

def expectedEnd : Bracket → Error
  | .list => .expectedListEnd
  | .object => .expectedObjectEnd

end Bracket

/-- A value that is no list and no object, from its first character on. -/
def skipScalar (c : Char) (r : List Char) : Except Error (List Char) :=
  if c = 'n' then word "ull".toList r
  else if c = 't' then word "rue".toList r
  else if c = 'f' then word "alse".toList r
  else if c = '-' then (number .invalidNumber r).map Prod.snd
  else if c.isDigit then (number .invalidNumber (c :: r)).map Prod.snd
  else if c = '"' then passString r
  else .error .expectedValue

/-- A key and its colon. -/
def skipKey (s : List Char) : Except Error (List Char) :=
  match skipSpace s with
  | [] => .error .eofInObject
  | c :: r => if c = '"' then passString r >>= colon else .error .keyNotString

/-- The text of the next value inside a bracket. -/
def enter (b : Bracket) (s : List Char) : Except Error (List Char) :=
  match b with
  | .list => .ok s
  | .object => skipKey s

/-- Closes brackets as long as they end, and goes on to the next value inside the innermost one that
stays open; `comma` tells whether a value stands before. -/
def closeBrackets : List Bracket → (comma : Bool) → List Char →
    Except Error (List Bracket × List Char)
  | [], _, s => .ok ([], s)
  | b :: outer, comma, s =>
    match skipSpace s with
    | [] => .error b.early
    | c :: r =>
      if comma && c = ',' then (enter b r).map (b :: outer, ·)
      else if c = b.closing then closeBrackets outer true r
      else if comma then .error b.expectedEnd
      else (enter b (c :: r)).map (b :: outer, ·)

/-- Passes over the values up to the end of the outermost bracket; every round takes a character. -/
def skipWithin : (fuel : Nat) → List Bracket → List Char → Except Error (List Char)
  | 0, _, _ => .error .eofInValue
  | fuel + 1, outer, s =>
    match skipSpace s with
    | [] => .error .eofInValue
    | c :: r => do
      let (brackets, rest) ←
        if c = '[' then closeBrackets (.list :: outer) false r
        else if c = '{' then closeBrackets (.object :: outer) false r
        else do
          let r ← skipScalar c r
          closeBrackets outer true r
      if brackets.isEmpty then pure rest else skipWithin fuel brackets rest

/-- Passes over one value. -/
def skipValue (s : List Char) : Except Error (List Char) :=
  skipWithin s.length [] s

end VectorReplay.Json
