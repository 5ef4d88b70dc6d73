/-!
File name filters: a name passes if it contains both the test name and the folder.
-/
namespace VectorReplay

/-- Whether one text stands inside another. -/
def occursIn (needle : List Char) : List Char → Bool
  | [] => needle.isEmpty
  | c :: rest => needle.isPrefixOf (c :: rest) || occursIn needle rest

theorem occursIn_iff (needle : List Char) (text : List Char) :
    occursIn needle text = true ↔ needle <:+: text := by
  induction text with
  | nil => simp [occursIn]
  | cons c rest ih =>
    simp only [occursIn, Bool.or_eq_true, List.isPrefixOf_iff_prefix, ih, List.infix_cons_iff]

structure Filter where
  name : String
  /-- Empty if no folder was given. -/
  folder : String
deriving DecidableEq, Repr

namespace Filter

def hasFolder (f : Filter) : Bool := f.folder ≠ ""

def admits (f : Filter) (fileName : String) : Bool :=
  occursIn f.name.toList fileName.toList && occursIn f.folder.toList fileName.toList

end Filter

end VectorReplay
