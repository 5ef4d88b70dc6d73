import VectorReplay.Text.Pieces
import VectorReplay.Url.Percent

/-!
Paths of addresses: segments behind slashes, where one dot stays and two dots go up. Nothing goes up
past the root or past a drive, a letter with a colon or a bar behind it.
-/
namespace VectorReplay.Url.Path

/-- A dot in a segment may be percent-encoded. -/
def undot : List Char → List Char
  | '%' :: '2' :: c :: r => if c = 'e' || c = 'E' then '.' :: undot r else '%' :: '2' :: c :: undot r
  | c :: r => c :: undot r
  | [] => []

def isDrive : List Char → Bool
  | [letter, c] => letter.isAlpha && (c = ':' || c = '|')
  | _ => false

/-- The segment above, unless it is a drive. -/
def goUp : List (List Char) → List (List Char)
  | [] => []
  | s :: up => if isDrive s then s :: up else up

/-- Resolves the segments of a path. `up` holds the segments before, the last one first. -/
def resolve (up : List (List Char)) : List (List Char) → List (List Char)
  | [] => up.reverse
  | s :: rest =>
    let dots := undot s
    if dots = ['.', '.'] then resolve (if rest.isEmpty then [] :: goUp up else goUp up) rest
    else if dots = ['.'] then resolve (if rest.isEmpty then [] :: up else up) rest
    else resolve (encode .path s :: up) rest

def join (segments : List (List Char)) : List Char :=
  segments.flatMap ('/' :: ·)

/-- A path from the root; the first slash may be left out. -/
def rooted (s : List Char) : List Char :=
  join (resolve [] (Text.pieces '/' (if s.head? = some '/' then s.drop 1 else s)))

end VectorReplay.Url.Path
