import VectorReplay.Hex.Digit
import VectorReplay.Text.Pieces

/-!
Sets of code points and maps between them, read from words in hexadecimal. In a set `41-5A` is a span
and `AA` one code point. In a map `41-5A:61` moves a span, `100-12E/101` every second code point of it,
and `DF:73+73,E0` gives the images of code points that follow each other.
-/
namespace VectorReplay.Text

/-- Code points that follow each other, by the first and the last. -/
structure Span where
  first : Nat
  last : Nat

namespace Span

def contains (s : Span) (n : Nat) : Bool :=
  s.first ≤ n && n ≤ s.last

end Span

def within (spans : List Span) (n : Nat) : Bool :=
  spans.any (·.contains n)

/-- How the code points of a span move. -/
structure Images where
  span : Span
  /-- Only every so many code points of the span have an image. -/
  step : Nat
  /-- One code point alone says where the first goes, and the others go along with it. -/
  images : List (List Nat)

namespace Images

def get? (m : Images) (n : Nat) : Option (List Nat) :=
  if m.span.contains n && (n - m.span.first) % m.step = 0 then
    match m.images with
    | [[a]] => some [a + (n - m.span.first)]
    | images => images[n - m.span.first]?
  else none

end Images

def lookup? (map : List Images) (n : Nat) : Option (List Nat) :=
  map.findSome? (·.get? n)

/-! ### Reading -/

def readNumber (s : List Char) : Nat :=
  s.foldl (fun n c => 16 * n + (Hex.charValue? c).getD 0) 0

def readSpan (s : List Char) : Span :=
  match pieces '-' s with
  | [first, last] => ⟨readNumber first, readNumber last⟩
  | _ => ⟨readNumber s, readNumber s⟩

def spans (s : String) : List Span :=
  (words s.toList).map readSpan

def readImages (s : List Char) : Images :=
  match pieces '/' s, pieces ':' s with
  | [key, image], _ => ⟨readSpan key, 2, [[readNumber image]]⟩
  | _, [key, images] =>
    let images := (pieces ',' images).map fun i => (pieces '+' i).map readNumber
    let span := readSpan key
    ⟨⟨span.first, max span.last (span.first + images.length - 1)⟩, 1, images⟩
  | _, _ => ⟨readSpan s, 1, []⟩

def codeMap (s : String) : List Images :=
  (words s.toList).map readImages

end VectorReplay.Text
