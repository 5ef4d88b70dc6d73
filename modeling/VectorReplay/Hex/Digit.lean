/-!
Hexadecimal digits and the shortest hexadecimal form of a number.
-/
namespace VectorReplay.Hex

/-- The lower-case digit of a value below sixteen. -/
def digit (n : Nat) : Char :=
  if n < 10 then Char.ofNat (48 + n) else Char.ofNat (87 + n)

/-- The value of a digit of either case. -/
def value? (b : UInt8) : Option Nat :=
  if 48 ≤ b && b ≤ 57 then some (b.toNat - 48)
  else if 97 ≤ b && b ≤ 102 then some (b.toNat - 87)
  else if 65 ≤ b && b ≤ 70 then some (b.toNat - 55)
  else none

/-- The value of a digit that is given as a character. -/
def charValue? (c : Char) : Option Nat :=
  if c.toNat < 128 then value? (UInt8.ofNat c.toNat) else none

/-- The digits of a number without leading zeros; zero has one digit. -/
def minimal (n : Nat) : List Char :=
  if n < 16 then [digit n] else minimal (n / 16) ++ [digit (n % 16)]

end VectorReplay.Hex
