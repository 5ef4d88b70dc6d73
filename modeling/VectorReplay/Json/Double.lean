import VectorReplay.Json.Scan

/-!
Numbers that are read as binary fractions: the decimal that a number text stands for, its value with 53
binary digits, and the shortest decimal that is nearest to that value and to no other.
-/
namespace VectorReplay.Json

/-! ### Reading -/

/-- A decimal, `significand` times ten to the `exponent`. -/
structure Decimal where
  negative : Bool
  significand : Nat
  exponent : Int
deriving DecidableEq, Repr

namespace Decimal

/-- Takes digits in as long as the number fits 64 bits, and leaves the others. -/
def takeDigits (n : Nat) : List Char → Nat × List Char
  | [] => (n, [])
  | c :: r =>
    let next := 10 * n + (c.toNat - 48)
    if next < UInt64.size then takeDigits next r else (n, c :: r)

/-- The decimal in the text of a number. Digits that do not fit count as zeros. -/
def ofText (text : List Char) : Decimal :=
  let negative := text.head? = some '-'
  let s := if negative then text.drop 1 else text
  let (n, zeros) := takeDigits 0 (s.takeWhile Char.isDigit)
  let s := s.dropWhile Char.isDigit
  let places := if s.head? = some '.' then (s.drop 1).takeWhile Char.isDigit else []
  let (n, left) := takeDigits n places
  let s := if s.head? = some '.' then (s.drop 1).dropWhile Char.isDigit else s
  let exponent : Int :=
    match s.drop 1 with
    | '-' :: r => -(natOfDigits r : Int)
    | r => natOfDigits r
  ⟨negative, n, zeros.length + left.length - places.length + exponent⟩

end Decimal

/-- The largest power of ten that multiplies or divides at once. -/
def largestPower : Nat := 308

/-- A value moved by a power of ten, in steps that are rounded; nothing for a value that is too large. -/
def scale (f : Float) (exponent : Int) : Option Float :=
  if exponent.natAbs ≤ largestPower then
    let power := Float.ofScientific 1 false exponent.natAbs
    if 0 ≤ exponent then
      if (f * power).isInf then none else some (f * power)
    else some (f / power)
  else if f == 0 then some f
  else if 0 ≤ exponent then none
  else scale (f / Float.ofScientific 1 false largestPower) (exponent + largestPower)
termination_by exponent.natAbs
decreasing_by
  simp only [largestPower] at *
  omega

/-- The size of a decimal as a binary fraction. -/
def Decimal.size? (d : Decimal) : Option Float :=
  scale (UInt64.ofNat d.significand).toFloat d.exponent

/-! ### Writing -/

/-- A binary fraction, `m` times two to the `q`. -/
structure Binary where
  m : Nat
  q : Int
  /-- Whether the next value below is nearer than the next one above. -/
  isPower : Bool
deriving DecidableEq, Repr

namespace Binary

def ofBits (b : UInt64) : Binary :=
  let e := ((b >>> 52) &&& 0x7FF).toNat
  let m := (b &&& 0xFFFFFFFFFFFFF).toNat
  if e = 0 then ⟨m, -1074, false⟩ else ⟨m + 0x10000000000000, (e : Int) - 1075, m = 0 && 1 < e⟩

/-- The value in quarters of its last binary digit, in units of ten to the `exponent`: a quarter is the
first number by the second. -/
def quarter (x : Binary) (exponent : Int) : Nat × Nat :=
  ((1 <<< (x.q - 2).toNat) * Nat.pow 10 (-exponent).toNat,
    (1 <<< (2 - x.q).toNat) * Nat.pow 10 exponent.toNat)

/-- The multiple of ten to the `exponent` that is nearest to the value and to no other one, if there is
one. -/
def onGrid? (x : Binary) (exponent : Int) : Option Nat :=
  let (up, down) := x.quarter exponent
  let value := 4 * x.m * up
  let low := value - (if x.isPower then up else 2 * up)
  let high := value + 2 * up
  let isNear (n : Nat) : Bool :=
    if x.m % 2 = 0 then low ≤ n * down && n * down ≤ high
    else low < n * down && n * down < high
  let n := value / down
  match isNear n, isNear (n + 1) with
  | true, true => some (if 2 * value < (2 * n + 1) * down then n else n + 1)
  | true, false => some n
  | false, true => some (n + 1)
  | false, false => none

/-- Whether the value is below ten to the `exponent`. -/
def isBelow (x : Binary) (exponent : Int) : Bool :=
  let (up, down) := x.quarter exponent
  4 * x.m * up < down

/-- The number of digits before the point; below zero, of zeros behind it. -/
def magnitude (x : Binary) : Int :=
  (((List.range 640).map fun i => Int.ofNat i - 330).find? x.isBelow).getD 310

/-- The shortest decimal: its digits and its exponent. -/
def shortest (x : Binary) : Nat × Int :=
  if x.m = 0 then (0, 0)
  else
    let k := x.magnitude
    ((List.range 17).findSome? fun i =>
      let exponent := k - Int.ofNat (i + 1)
      (x.onGrid? exponent).map (·, exponent)).getD (0, 0)

end Binary

/-- A decimal without an exponent; there is a digit before the point and one behind it. -/
def positional (n : Nat) (exponent : Int) : String :=
  let digits := Nat.toDigits 10 n
  if 0 ≤ exponent then
    String.ofList (digits ++ List.replicate (if n = 0 then 0 else exponent.toNat) '0') ++ ".0"
  else
    let places := (-exponent).toNat
    let digits := List.replicate (places + 1 - digits.length) '0' ++ digits
    let behind := ((digits.drop (digits.length - places)).reverse.dropWhile (· = '0')).reverse
    String.ofList (digits.take (digits.length - places)) ++ "." ++
      (if behind.isEmpty then "0" else String.ofList behind)

/-- The text of a number as a binary fraction; nothing for a number that is too large. -/
def doubleText? (text : List Char) : Option String :=
  let d := Decimal.ofText text
  d.size?.map fun f =>
    let (n, exponent) := (Binary.ofBits f.toBits).shortest
    (if d.negative then "-" else "") ++ positional n exponent

end VectorReplay.Json
