import VectorReplay.Json.Scan

/-!
Readers of JSON text: what was read, and the text that follows it.
-/
namespace VectorReplay.Json

abbrev Reader (α : Type) := List Char → Except Error (α × List Char)

namespace Reader

/-- The elements of a list up to its closing bracket. Every element takes a character, so the length
of the text bounds their number. -/
def elements {α : Type} (read : Reader α) : (fuel : Nat) → (first : Bool) → Reader (List α)
  | 0, _, _ => .error .eofInList
  | fuel + 1, first, s => do
    let (more, s) ← nextElement first s
    if more then
      let (a, s) ← read s
      let (rest, s) ← elements read fuel false s
      pure (a :: rest, s)
    else pure ([], s)

/-- The members of an object up to its closing bracket; `step` takes a key and reads from before the
colon on. -/
def members {σ : Type} (step : σ → String → Reader σ) :
    (fuel : Nat) → (first : Bool) → σ → Reader σ
  | 0, _, _, _ => .error .eofInObject
  | fuel + 1, first, acc, s => do
    let (more, s) ← nextMember first s
    if more then
      let (key, s) ← stringBody s
      let (acc, s) ← step acc (String.ofList key) s
      members step fuel false acc s
    else pure (acc, s)

/-- What stands behind an open list bracket. -/
def listBody {α : Type} (read : Reader α) : Reader (List α) := fun s => do
  let (as, s) ← elements read (s.length + 1) true s
  let s ← endList s
  pure (as, s)

/-- What stands behind an open object bracket. -/
def objectBody {σ : Type} (step : σ → String → Reader σ) (blank : σ) : Reader σ := fun s => do
  let (acc, s) ← members step (s.length + 1) true blank s
  let s ← endObject s
  pure (acc, s)

/-- Chooses a reader by the first character, which stays in the text. -/
def dispatch {α : Type} (choose : Char → Reader α) : Reader α := fun s =>
  match skipSpace s with
  | [] => .error .eofInValue
  | c :: r => choose c (c :: r)

/-- The value of a member: what follows its colon. -/
def afterColon {α : Type} (read : Reader α) : Reader α := fun s => do
  let s ← colon s
  read s

/-- A whole text: one value and blanks. -/
def run {α : Type} (read : Reader α) (text : String) : Except Error α := do
  let (a, s) ← read text.toList
  match skipSpace s with
  | [] => pure a
  | _ :: _ => .error .trailingCharacters

end Reader

end VectorReplay.Json
