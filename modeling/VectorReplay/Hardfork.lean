/-!
Protocol versions, oldest first, and the version that a header's number of fields implies.
-/
namespace VectorReplay

inductive Hardfork
  | berlin
  | london
  | shanghai
  | cancun
  | prague
deriving DecidableEq, Repr

namespace Hardfork

def all : List Hardfork := [.berlin, .london, .shanghai, .cancun, .prague]

def name : Hardfork → String
  | .berlin => "berlin"
  | .london => "london"
  | .shanghai => "shanghai"
  | .cancun => "cancun"
  | .prague => "prague"

/-- The place in the order of versions. -/
def index : Hardfork → Nat
  | .berlin => 0
  | .london => 1
  | .shanghai => 2
  | .cancun => 3
  | .prague => 4

instance : LE Hardfork := ⟨fun a b => a.index ≤ b.index⟩

instance (a b : Hardfork) : Decidable (a ≤ b) :=
  inferInstanceAs (Decidable (a.index ≤ b.index))

/-- A header field count between two known layouts belongs to the older one. -/
def ofFieldCount (n : Nat) : Hardfork :=
  if 21 ≤ n then .prague
  else if n = 20 then .cancun
  else if 17 ≤ n then .shanghai
  else if n = 16 then .london
  else .berlin

/-- Equality of texts up to the case of ASCII letters. -/
def sameLetters (s t : String) : Bool :=
  s.toList.map Char.toLower = t.toList.map Char.toLower

def parse? (s : String) : Option Hardfork :=
  all.find? fun f => sameLetters f.name s

def unknownMessage (s : String) : String :=
  "Unknown hardfork `" ++ s ++ "`. Supported hardforks: " ++ ", ".intercalate (all.map name)

end Hardfork

end VectorReplay
