import VectorReplay.Text.Composition
import VectorReplay.Text.Direction
import VectorReplay.Text.Joining
import VectorReplay.Url.Domain.Mapping
import VectorReplay.Url.Domain.Punycode

/-!
Domain names of all scripts and their form in ASCII. A name is read label by label: what a label stands
for, whether it is in order, and how it is written. A label that starts with `xn--` stands for the text
that is encoded behind it.
-/
namespace VectorReplay.Url.Domain

/-- The form in which names are compared; nothing for a text with characters that no name has. -/
def normal? (s : List Char) : Option (List Char) := do
  let images ← s.mapM image?
  pure (Text.composed images.flatten)

namespace Label

/-! ### Reading and writing -/

def mark : List Char := ['x', 'n', '-', '-']

/-- What stands behind the mark. -/
def unmark? (s : List Char) : Option (List Char) :=
  if s.take 4 = mark then some (s.drop 4) else none

def maxDecoded : Nat := 2000

def maxEncoded : Nat := 1000

/-- What a label stands for. Only what cannot be written in ASCII is encoded, once, and in the form in
which names are compared. -/
def read (s : List Char) : Option (List Char) :=
  match unmark? s with
  | none => some s
  | some code =>
    if code.isEmpty || code.getLast? = some '-' || maxDecoded < code.length then none
    else do
      let label ← Punycode.decode code
      if normal? label = some label && (unmark? label).isNone then some label else none

def write (s : List Char) : Option (List Char) :=
  if s.all Punycode.isBasic then some s
  else if maxEncoded < s.length then none
  else some (mark ++ Punycode.encode s)

/-! ### Order -/

/-- The characters of ASCII that a label does not hold. -/
def reserved : List Char :=
  [' ', '#', '%', '.', '/', ':', '<', '>', '?', '@', '[', '\\', ']', '^', '|']

def holds (c : Char) : Bool :=
  0x80 ≤ c.toNat || (0x20 ≤ c.toNat && c.toNat < 0x7F && !reserved.contains c)

/-- A mark belongs to a letter before it. -/
def startsWithMark : List Char → Bool
  | [] => false
  | c :: _ => Text.isMark c.toNat

/-- The place of the marks that bind two consonants. -/
def bindingPlace : Nat := 9

/-- Whether the characters around an invisible joiner call for it. `before` holds those before it, the
last one first. -/
def callsForJoiner (c : Nat) (before after : List Nat) : Bool :=
  match before with
  | [] => false
  | b :: _ =>
    Text.Composition.place b = bindingPlace ||
      c = nonJoiner && (before.find? (!Text.isPassedOver ·)).any Text.joinsBehind &&
        (after.find? (!Text.isPassedOver ·)).any Text.joinsBefore

def joinersFit (before : List Nat) : List Nat → Bool
  | [] => true
  | c :: rest => (!isJoiner c || callsForJoiner c before rest) && joinersFit (c :: before) rest

def isInOrder (s : List Char) : Bool :=
  s.all holds && !startsWithMark s && joinersFit [] (s.map Char.toNat)

/-! ### Direction -/

def directions (s : List Char) : List Text.Direction :=
  s.map fun c => Text.direction c.toNat

/-- Whether a label has characters that run to the right. -/
def hasRight (s : List Char) : Bool :=
  s.any Text.turnsRight

/-- A label runs in one direction, which its first character has, and its last one, marks apart, is a
letter or a digit. Digits of one kind alone stand among letters that run to the right. -/
def runsOneWay (s : List Char) : Bool :=
  let ds := directions s
  let last := (ds.reverse.find? (· ≠ .nonspacing)).getD .nonspacing
  match ds with
  | [] => true
  | .left :: _ => ds.all (fun d => d ≠ .right && d ≠ .arabic) && (last = .left || last = .european)
  | .right :: _ =>
    ds.all (· ≠ .left) && (last = .right || last = .european || last = .arabic) &&
      !(ds.contains .european && ds.contains .arabic)
  | _ => false

end Label

/-! ### Names -/

/-- A name with labels that run to the right has no label that runs both ways. -/
def areInOrder (labels : List (List Char)) : Bool :=
  labels.all Label.isInOrder && (!labels.any Label.hasRight || labels.all Label.runsOneWay)

/-- The form of a name in ASCII; nothing for a text that is no name. -/
def toAscii? (s : List Char) : Option (List Char) := do
  let name ← normal? s
  let labels ← (Text.pieces '.' name).mapM Label.read
  if areInOrder labels then
    let written ← labels.mapM Label.write
    pure (List.intercalate ['.'] written)
  else none

end VectorReplay.Url.Domain
