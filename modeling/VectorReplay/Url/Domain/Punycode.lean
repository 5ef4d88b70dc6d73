/-!
Punycode: a text in lower-case ASCII. Its ASCII characters stand first, and behind a hyphen the numbers
that say where the others are put in, in ascending order. A number has its low digits first, to base 36,
and a digit below a threshold ends it; the thresholds follow the size of the numbers before.
-/
namespace VectorReplay.Url.Punycode

/-! ### Numbers -/

def digit (n : Nat) : Char :=
  if n < 26 then Char.ofNat (97 + n) else Char.ofNat (22 + n)

def value? (c : Char) : Option Nat :=
  if 'a' ≤ c && c ≤ 'z' then some (c.toNat - 97)
  else if '0' ≤ c && c ≤ '9' then some (c.toNat - 22)
  else none

/-- The threshold of the digit at position `k`, where positions count in steps of 36. -/
def threshold (bias k : Nat) : Nat :=
  max 1 (min 26 (k - bias))

theorem threshold_pos (bias k : Nat) : 1 ≤ threshold bias k := Nat.le_max_left ..

def encodeNumber (bias k n : Nat) : List Char :=
  let t := threshold bias k
  if n < t then [digit n]
  else digit (t + (n - t) % (36 - t)) :: encodeNumber bias (k + 36) ((n - t) / (36 - t))
termination_by n
decreasing_by
  have := threshold_pos bias k
  have := Nat.div_le_self (n - threshold bias k) (36 - threshold bias k)
  omega

/-- Adds a number, whose next digit weighs `weight`, to `n`. -/
def decodeNumber (bias k weight n : Nat) : List Char → Option (Nat × List Char)
  | [] => none
  | c :: rest => do
    let d ← value? c
    let t := threshold bias k
    if d < t then some (n + d * weight, rest)
    else decodeNumber bias (k + 36) (weight * (36 - t)) (n + d * weight) rest

theorem length_of_decodeNumber {s : List Char} {bias k weight n : Nat} {r : Nat × List Char}
    (h : decodeNumber bias k weight n s = some r) : r.2.length < s.length := by
  induction s generalizing k weight n with
  | nil => simp [decodeNumber] at h
  | cons c rest ih =>
    simp only [decodeNumber, bind, Option.bind_eq_some_iff] at h
    obtain ⟨d, -, h⟩ := h
    split at h
    · cases h
      simp
    · exact Nat.lt_succ_of_lt (ih h)

/-- How often a number is divided by 35 before it is below 456, and what is left. -/
def scale (n : Nat) : Nat × Nat :=
  if n ≤ 455 then (0, n) else ((scale (n / 35)).1 + 1, (scale (n / 35)).2)

/-- The next bias, after a number that puts in one of now `count` characters. -/
def adapt (n count : Nat) (isFirst : Bool) : Nat :=
  let n := if isFirst then n / 700 else n / 2
  let (k, n) := scale (n + n / count)
  36 * k + 36 * n / (n + 38)

/-! ### Texts -/

def isBasic (c : Char) : Bool := c.toNat < 0x80

def firstBias : Nat := 72

/-- Where an encoder stands: the steps since the last character was put in, how many characters are
put in, and whether none beyond ASCII is. -/
structure State where
  steps : Nat
  bias : Nat
  count : Nat
  isFirst : Bool

/-- Passes over a text for the code point `n`. -/
def pass (n : Nat) : List Char → State → List Char × State
  | [], s => ([], s)
  | c :: rest, s =>
    if c.toNat < n then pass n rest { s with steps := s.steps + 1 }
    else if c.toNat = n then
      let (out, after) := pass n rest {
        steps := 0
        bias := adapt s.steps (s.count + 1) s.isFirst
        count := s.count + 1
        isFirst := false }
      (encodeNumber s.bias 36 s.steps ++ out, after)
    else pass n rest s

/-- Passes over a text once for each of the code points, which ascend; `low` is the first that was not
looked at. -/
def passes (text : List Char) : (low : Nat) → List Nat → State → List Char
  | _, [], _ => []
  | low, n :: ns, s =>
    let (out, s) := pass n text { s with steps := s.steps + (n - low) * (s.count + 1) }
    out ++ passes text (n + 1) ns { s with steps := s.steps + 1 }

def insertPoint (n : Nat) : List Nat → List Nat
  | [] => [n]
  | m :: ms => if n < m then n :: m :: ms else if n = m then m :: ms else m :: insertPoint n ms

def encode (s : List Char) : List Char :=
  let basic := s.filter isBasic
  let points := ((s.filter fun c => !isBasic c).map Char.toNat).foldr insertPoint []
  (if basic.isEmpty then [] else basic ++ ['-']) ++
    passes s 0x80 points { steps := 0, bias := firstBias, count := basic.length, isFirst := true }

def isScalar (n : Nat) : Bool := n < 0xD800 || (0xDFFF < n && n < 0x110000)

/-- Puts characters into a text; `n` is the last code point, and `i` the place behind it. -/
def insertAll (bias n i : Nat) (isFirst : Bool) (out : List Char) (s : List Char) :
    Option (List Char) :=
  if s.isEmpty then some out
  else
    match _h : decodeNumber bias 36 1 i s with
    | none => none
    | some (j, rest) =>
      let count := out.length + 1
      let n := n + j / count
      if isScalar n then
        insertAll (adapt (j - i) count isFirst) n (j % count + 1) false
          (out.take (j % count) ++ Char.ofNat n :: out.drop (j % count)) rest
      else none
termination_by s.length
decreasing_by exact length_of_decodeNumber _h

/-- What stands before the last hyphen, and what behind it; a hyphen in front of all is none. -/
def splitBasic (s : List Char) : List Char × List Char :=
  match (s.reverse.dropWhile (· ≠ '-')).reverse.dropLast with
  | [] => ([], s)
  | basic => (basic, (s.reverse.takeWhile (· ≠ '-')).reverse)

def decode (s : List Char) : Option (List Char) :=
  let (basic, rest) := splitBasic s
  if basic.all isBasic then insertAll firstBias 0x80 0 true basic rest else none

end VectorReplay.Url.Punycode
