import VectorReplay.Error
import VectorReplay.Text.Utf8

/-!
Directories as a corpus sees them: the names that are listed and the text behind a name. Names that
are not UTF-8 are listed with replacement characters, under which nothing can be opened.
-/
namespace VectorReplay

/-- What can be asked of a directory. -/
structure Files where
  list : Except FileError (List String)
  read : (name : String) → Except FileError String

/-- A path below a directory; one from the root stands alone. -/
def Files.join (directory path : String) : String :=
  if path.toList.head? = some '/' then path
  else
    match directory.toList.getLast? with
    | none => path
    | some c => if c = '/' then directory ++ path else directory ++ "/" ++ path

/-- Files and directories held in memory, by the bytes of their names. -/
inductive FileTree
  | file (content : Bytes)
  | directory (items : List (Bytes × FileTree))

namespace FileTree

def lookup? (name : Bytes) : List (Bytes × FileTree) → Option FileTree
  | [] => none
  | (n, t) :: rest => if n = name then some t else lookup? name rest

/-- The longest name of a file, and the longest path, in bytes. -/
def maxName : Nat := 255

def maxPath : Nat := 4095

/-- Follows the parts of a path. `above` holds the directories above, the nearest first; what lies above
them all is taken to be empty. -/
def walk : (above : List FileTree) → FileTree → List String → Except FileError FileTree
  | _, t, [] => .ok t
  | _, .file _, _ :: _ => .error .notDirectory
  | above, .directory items, part :: rest =>
    if part = "" ∨ part = "." then walk above (.directory items) rest
    else if part = ".." then walk above.tail (above.headD (.directory [])) rest
    else if maxName < Text.utf8Size part.toList then .error .nameTooLong
    else match lookup? (Text.utf8 part.toList) items with
      | none => .error .notFound
      | some t => walk (.directory items :: above) t rest

/-- What is at a path. The empty path leads nowhere, and nothing is known of absolute ones. -/
def at? (t : FileTree) (path : String) : Except FileError FileTree :=
  if path.toList.contains '\x00' then .error .endsEarly
  else if path = "" then .error .notFound
  else if maxPath < Text.utf8Size path.toList then .error .nameTooLong
  else walk [] (if path.toList.head? = some '/' then .directory [] else t) (path.splitOn "/")

def names : FileTree → Except FileError (List String)
  | .file _ => .error .notDirectory
  | .directory items => .ok (items.map fun (n, _) => Text.decodeLossy n)

def content : FileTree → Except FileError String
  | .directory _ => .error .isDirectory
  | .file b =>
    match Text.decode? b with
    | some s => .ok s
    | none => .error .notText

/-- The directory at a path. -/
def files (t : FileTree) (path : String) : Files where
  list := t.at? path >>= names
  read name := t.at? (Files.join path name) >>= content

end FileTree

end VectorReplay
