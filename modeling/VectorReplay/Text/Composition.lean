import VectorReplay.Text.Composition.Table
import VectorReplay.Text.Mark

/-!
The composed form of a text: characters are taken apart, marks are put into the order of their places,
and what can be composed is composed again. Korean syllables follow a rule, all others a table.
-/
namespace VectorReplay.Text.Composition

/-- The place of a mark; zero for what is no mark, and for marks that other marks do not pass. -/
def place (n : Nat) : Nat :=
  match places.find? fun (_, spans) => within spans n with
  | some (k, _) => k
  | none => 0

/-! ### Korean syllables -/

def firstSyllable : Nat := 0xAC00

def syllableCount : Nat := 11172

/-- The first leading consonant, the first vowel, and the code point before the first trailing
consonant. -/
def leading : Nat := 0x1100

def vowel : Nat := 0x1161

def trailing : Nat := 0x11A7

def isSyllable (n : Nat) : Bool :=
  firstSyllable ≤ n && n < firstSyllable + syllableCount

/-- The letters of a syllable, by its position among all: 28 endings, among them none, go with each of
21 vowels. -/
def letters (i : Nat) : List Nat :=
  [leading + i / 588, vowel + i % 588 / 28] ++ if i % 28 = 0 then [] else [trailing + i % 28]

/-- Two letters, or a syllable without an ending and its ending. -/
def syllable? (a b : Nat) : Option Nat :=
  if leading ≤ a && a < leading + 19 && vowel ≤ b && b < vowel + 21 then
    some (firstSyllable + 588 * (a - leading) + 28 * (b - vowel))
  else if isSyllable a && (a - firstSyllable) % 28 = 0 && trailing < b && b < trailing + 28 then
    some (a + (b - trailing))
  else none

/-! ### Taking apart -/

/-- The parts of a character, taken apart at most `depth` times. -/
def parts : (depth : Nat) → Nat → List Nat
  | 0, n => [n]
  | depth + 1, n =>
    if isSyllable n then letters (n - firstSyllable)
    else
      match lookup? compositions n with
      | some ps => ps.flatMap (parts depth)
      | none => [n]

/-- No character consists of parts that consist of parts more than three times. -/
def depthLimit : Nat := 3

/-- Puts a mark behind those whose places come before its own. -/
def insertMark (n : Nat) : List Nat → List Nat
  | [] => [n]
  | m :: rest => if place m ≠ 0 && place m < place n then m :: insertMark n rest else n :: m :: rest

/-! ### Composing -/

def compound? (a b : Nat) : Option Nat :=
  syllable? a b <|>
    (compositionPairs.find? fun (ps, _) => ps = [a, b]).map fun (_, n) => n

/-- Goes on from a character and the marks that it did not take up, the last of them at place `last`. A
mark behind another one of its place or a later one cannot be taken up. -/
def compose (base : Nat) (marks : List Nat) (last : Nat) : List Nat → List Nat
  | [] => base :: marks
  | n :: rest =>
    match if marks.isEmpty || last < place n then compound? base n else none with
    | some c => compose c marks last rest
    | none =>
      if place n = 0 then base :: marks ++ compose n [] 0 rest
      else compose base (marks ++ [n]) (place n) rest

def normalize (s : List Nat) : List Nat :=
  match (s.flatMap (parts depthLimit)).foldr insertMark [] with
  | [] => []
  | n :: rest => compose n [] 0 rest

end Composition

/-- The composed form of a text; without marks and Korean letters it is the text itself. -/
def composed (s : List Char) : List Char :=
  if s.all fun c => c.toNat < firstMark then s
  else (Composition.normalize (s.map Char.toNat)).map Char.ofNat

end VectorReplay.Text
