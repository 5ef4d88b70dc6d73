/-!
Texts cut at a mark, and the words of a text.
-/
namespace VectorReplay.Text

/-- The pieces of a text between marks; there is always one. -/
def pieces (mark : Char) : List Char → List (List Char)
  | [] => [[]]
  | c :: r =>
    match pieces mark r with
    | [] => [[c]]
    | p :: ps => if c = mark then [] :: p :: ps else (c :: p) :: ps

/-- The words of a text: what stands between blanks and line ends. -/
def words (s : List Char) : List (List Char) :=
  (pieces ' ' (s.map fun c => if c = '\n' then ' ' else c)).filter fun w => !w.isEmpty

end VectorReplay.Text
